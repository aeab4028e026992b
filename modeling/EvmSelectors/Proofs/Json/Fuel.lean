import EvmSelectors.Proofs.Json

/-!
This module contains the laws of the fuel with which a text is read. Every reader shortens the text, so
that the fuel does not run out, and a text that spells an object is read as that object.
-/

namespace EvmSelectors
namespace Json

/--
Whether a reader leaves less of a text than it has been given.
-/
def Shortens {α : Type} (reader : List Char → Read α) : Prop :=
  ∀ {s value rest}, reader s = .ok (value, rest) → rest.length < s.length

theorem length_skipSpace_le (s : List Char) : (skipSpace s).length ≤ s.length :=
  (List.dropWhile_suffix isSpace).length_le

theorem length_lt_of_skipSpace_eq {s rest : List Char} {c : Char} (h : skipSpace s = c :: rest) :
    rest.length < s.length := by
  have hspace := length_skipSpace_le s
  rw [h, List.length_cons] at hspace
  omega

theorem length_lt_of_readUnit? {s rest : List Char} {unit : Nat}
    (h : readUnit? s = some (unit, rest)) : rest.length < s.length := by
  unfold readUnit? at h
  grind

theorem length_lt_of_readPair? {hi : Nat} {s rest : List Char} {c : Char}
    (h : readPair? hi s = some (c, rest)) : rest.length < s.length := by
  unfold readPair? at h
  split at h
  · split at h
    · cases h
    · next hunit =>
      have hrest := length_lt_of_readUnit? hunit
      split at h
      · rw [Option.some.injEq, Prod.mk.injEq] at h
        rw [← h.2, List.length_cons, List.length_cons]
        omega
      · cases h
  · cases h

theorem shortens_readEscape (start : List Char) : Shortens (readEscape start) := by
  intro s p rest h
  have hdrop : (s.drop 1).length = s.length - 1 := List.length_drop
  unfold readEscape at h
  split at h
  · cases h
  · next hs =>
    rw [hs, List.length_cons] at hdrop
    split at h
    · cases h
    · next hunit =>
      have hbehind := length_lt_of_readUnit? hunit
      split at h
      · next hpair =>
        cases h
        have hrest := length_lt_of_readPair? hpair
        omega
      · cases h
        omega
  · next hs =>
    rw [hs, List.length_cons] at hdrop
    split at h
    · cases h
      omega
    · cases h

theorem shortens_readText {start : List Char} {fuel : Nat} {acc : List CodePoint} :
    Shortens (readText start fuel · acc) := by
  intro s t rest h
  dsimp only at h
  induction fuel generalizing s acc with
  | zero => cases h
  | succ fuel ih =>
    unfold readText at h
    split at h
    · cases h
    · next c behind =>
      split at h
      · cases h
        simp
      · split at h
        · split at h
          · cases h
          · next hescape =>
            have hrest := ih h
            have hbehind := shortens_readEscape start hescape
            omega
        · split at h
          · cases h
          · have hrest := ih h
            simp only [List.length_cons]
            omega

theorem length_lt_of_readWhole? {s digits rest : List Char} (h : readWhole? s = some (digits, rest)) :
    rest.length < s.length := by
  unfold readWhole? at h
  split at h
  · cases h
    simp
  · dsimp only at h
    split at h
    · cases h
    · next hdigits =>
      cases h
      have hparts : s.takeWhile Text.isAsciiDigit ++ s.dropWhile Text.isAsciiDigit = s :=
        List.takeWhile_append_dropWhile
      replace hparts := congrArg List.length hparts
      rw [List.isEmpty_iff_length_eq_zero] at hdigits
      rw [List.length_append] at hparts
      omega

theorem length_readPart_le (s : List Char) : (readPart s).2.length ≤ s.length := by
  unfold readPart
  split
  · next rest =>
    have hrest := (List.dropWhile_suffix Text.isAsciiDigit (l := rest)).length_le
    grind
  · exact Nat.le_refl _

theorem length_readPower_le (s : List Char) : (readPower s).2.length ≤ s.length := by
  unfold readPower
  split
  · next c rest =>
    have hsign : (Number.sign rest).2.length ≤ rest.length := by
      unfold Number.sign
      grind
    have hrest := (List.dropWhile_suffix Text.isAsciiDigit (l := (Number.sign rest).2)).length_le
    grind
  · exact Nat.le_refl _

theorem shortens_readNumber : Shortens readNumber := by
  intro s value rest h
  unfold readNumber at h
  dsimp only at h
  split at h
  · cases h
  · next whole behind hwhole =>
    have hbehind : behind.length < s.length := by
      have hdigits := length_lt_of_readWhole? hwhole
      split at hdigits
      · exact Nat.lt_succ_of_lt hdigits
      · exact hdigits
    have hpart := length_readPart_le behind
    have hpower := length_readPower_le (readPart behind).2
    have hrest : rest = (readPower (readPart behind).2).2 := by
      split at h
      · split at h
        · cases h
          rfl
        · cases h
      · cases h
        rfl
    rw [hrest]
    omega

theorem shortens_readScalar : Shortens readScalar := by
  intro s value rest h
  have hwords : ∀ w ∈ words, 0 < w.1.length := by decide
  unfold readScalar at h
  split at h
  · next word value' hfind =>
    cases h
    have hpos : 0 < word.length := hwords _ (List.mem_of_find?_eq_some hfind)
    have hprefix : word <+: s := by simpa using List.find?_some hfind
    have hlen := hprefix.length_le
    rw [List.length_drop]
    omega
  · exact shortens_readNumber h

theorem shortens_readValue {fuel depth : Nat} (hitems : ∀ depth, Shortens (readItems fuel depth · []))
    (hfields : ∀ depth, Shortens (readFields fuel depth · [])) :
    Shortens (readValue (fuel + 1) depth) := by
  intro s value rest h
  unfold readValue at h
  split at h
  · split at h
    · cases h
    · next htext =>
      cases h
      exact Nat.lt_succ_of_lt (shortens_readText htext)
  · split at h
    · cases h
    · split at h
      · next hclose =>
        cases h
        exact Nat.lt_succ_of_lt (length_lt_of_skipSpace_eq hclose)
      · exact Nat.lt_succ_of_lt (Nat.lt_of_lt_of_le (hitems _ h) (length_skipSpace_le _))
  · split at h
    · cases h
    · split at h
      · next hclose =>
        cases h
        exact Nat.lt_succ_of_lt (length_lt_of_skipSpace_eq hclose)
      · exact Nat.lt_succ_of_lt (Nat.lt_of_lt_of_le (hfields _ h) (length_skipSpace_le _))
  · exact shortens_readScalar h

theorem shortens_readItems {fuel depth : Nat} {acc : List Json}
    (hvalue : Shortens (readValue fuel depth)) (hitems : ∀ acc, Shortens (readItems fuel depth · acc)) :
    Shortens (readItems (fuel + 1) depth · acc) := by
  intro s value rest h
  dsimp only at h
  unfold readItems at h
  split at h
  · cases h
  · next hitem =>
    have hbehind := hvalue hitem
    split at h
    · next hclose =>
      cases h
      have hrest := length_lt_of_skipSpace_eq hclose
      omega
    · next hcomma =>
      have hnext := length_lt_of_skipSpace_eq hcomma
      have hrest := Nat.lt_of_lt_of_le (hitems _ h) (length_skipSpace_le _)
      omega
    · cases h

theorem shortens_readFields {fuel depth : Nat} {acc : List Field}
    (hvalue : Shortens (readValue fuel depth))
    (hfields : ∀ acc, Shortens (readFields fuel depth · acc)) :
    Shortens (readFields (fuel + 1) depth · acc) := by
  intro s value rest h
  dsimp only at h
  unfold readFields at h
  split at h
  · split at h
    · cases h
    · next hname =>
      have hbehindName := shortens_readText hname
      split at h
      · next hcolon =>
        have hbehindColon := length_lt_of_skipSpace_eq hcolon
        split at h
        · cases h
        · next hitem =>
          have hbehindValue := Nat.lt_of_lt_of_le (hvalue hitem) (length_skipSpace_le _)
          rw [List.length_cons]
          split at h
          · next hclose =>
            cases h
            have hrest := length_lt_of_skipSpace_eq hclose
            omega
          · next hcomma =>
            have hnext := length_lt_of_skipSpace_eq hcomma
            have hrest := Nat.lt_of_lt_of_le (hfields _ h) (length_skipSpace_le _)
            omega
          · cases h
      · cases h
  · cases h

theorem shortens_read (fuel depth : Nat) :
    Shortens (readValue fuel depth)
      ∧ (∀ acc, Shortens (readItems fuel depth · acc))
      ∧ ∀ acc, Shortens (readFields fuel depth · acc) := by
  induction fuel generalizing depth with
  | zero => simp [Shortens, readValue, readItems, readFields, fault]
  | succ fuel ih =>
    obtain ⟨hvalue, hitems, hfields⟩ := ih depth
    refine ⟨?_, ?_, ?_⟩
    · exact shortens_readValue (fun depth => (ih depth).2.1 []) (fun depth => (ih depth).2.2 [])
    · intro acc
      exact shortens_readItems hvalue hitems
    · intro acc
      exact shortens_readFields hvalue hfields

/--
Whether fuel suffices for what has been read: there is as much of it as needed, or a value was found.
-/
def Suffices {α : Type} (needed fuel : Nat) (r : Read α) : Prop :=
  needed ≤ fuel ∨ ∃ found, r = .ok found

theorem Suffices.mono {α : Type} {needed needed' fuel fuel' : Nat} {r : Read α}
    (h : Suffices needed fuel r) (hneeded : needed ≤ fuel → needed' ≤ fuel') :
    Suffices needed' fuel' r :=
  h.imp_left hneeded

/--
Fuel that suffices for a value and what stands behind it suffices for the value.
-/
theorem Suffices.of_first {α β : Type} {needed needed' fuel fuel' : Nat} {r : Read α} {first : Read β}
    (h : Suffices needed fuel r) (hneeded : needed ≤ fuel → needed' ≤ fuel')
    (hfirst : ∀ e, first = .error e → r = .error e) : Suffices needed' fuel' first := by
  rcases h with h | ⟨found, h⟩
  · exact .inl (hneeded h)
  · cases first with
    | error e => simp [hfirst e rfl] at h
    | ok item => exact .inr ⟨item, rfl⟩

theorem readText_succ {start s : List Char} {fuel : Nat} {acc : List CodePoint}
    (h : Suffices (s.length + 1) fuel (readText start fuel s acc)) :
    readText start (fuel + 1) s acc = readText start fuel s acc := by
  induction fuel generalizing s acc with
  | zero =>
    rcases h with h | ⟨found, h⟩
    · omega
    · cases h
  | succ fuel ih =>
    unfold readText at h ⊢
    split
    · rfl
    · next c rest =>
      rw [List.length_cons] at h
      dsimp only at h
      split
      · rfl
      · next hquote =>
        rw [if_neg hquote] at h
        split
        · next hescape =>
          rw [if_pos hescape] at h
          cases hread : readEscape start (c :: rest) with
          | error e => rfl
          | ok found =>
            have hrest := shortens_readEscape start hread
            rw [hread] at h
            rw [List.length_cons] at hrest
            exact ih (h.mono (by omega))
        · next hescape =>
          rw [if_neg hescape] at h
          split
          · rfl
          · next hcontrol =>
            rw [if_neg hcontrol] at h
            exact ih (h.mono (by omega))

theorem readText_add (start s : List Char) (acc : List CodePoint) (more : Nat) :
    readText start (s.length + 1 + more) s acc = readText start (s.length + 1) s acc := by
  induction more with
  | zero => rfl
  | succ more ih => rw [← Nat.add_assoc, readText_succ (.inl (by omega)), ih]

theorem readValue_array {s : List Char} (h : ∀ rest, skipSpace s ≠ ']' :: rest) (fuel depth : Nat) :
    readValue (fuel + 1) (depth + 1) ('[' :: s) = readItems fuel depth (skipSpace s) [] := by
  simp only [readValue]

theorem readValue_object {s : List Char} (h : ∀ rest, skipSpace s ≠ '\x7d' :: rest)
    (fuel depth : Nat) :
    readValue (fuel + 1) (depth + 1) ('\x7b' :: s) = readFields fuel depth (skipSpace s) [] := by
  simp only [readValue]

theorem readValue_succ {fuel depth : Nat} {s : List Char}
    (hitems : ∀ depth s, Suffices (2 * s.length + 2) fuel (readItems fuel depth s []) →
      readItems (fuel + 1) depth s [] = readItems fuel depth s [])
    (hfields : ∀ depth s, Suffices (2 * s.length + 2) fuel (readFields fuel depth s []) →
      readFields (fuel + 1) depth s [] = readFields fuel depth s [])
    (h : Suffices (2 * s.length + 1) (fuel + 1) (readValue (fuel + 1) depth s)) :
    readValue (fuel + 2) depth s = readValue (fuel + 1) depth s := by
  unfold readValue
  split
  · rfl
  · next rest =>
    split
    · rfl
    · next depth =>
      split
      · rfl
      · next hclose =>
        rw [readValue_array hclose] at h
        have hspace := length_skipSpace_le rest
        rw [List.length_cons] at h
        exact hitems _ _ (h.mono (by omega))
  · next rest =>
    split
    · rfl
    · next depth =>
      split
      · rfl
      · next hclose =>
        rw [readValue_object hclose] at h
        have hspace := length_skipSpace_le rest
        rw [List.length_cons] at h
        exact hfields _ _ (h.mono (by omega))
  · rfl

theorem readItems_succ {fuel depth : Nat} {s : List Char} {acc : List Json}
    (hvalue : ∀ s, Suffices (2 * s.length + 1) fuel (readValue fuel depth s) →
      readValue (fuel + 1) depth s = readValue fuel depth s)
    (hitems : ∀ s acc, Suffices (2 * s.length + 2) fuel (readItems fuel depth s acc) →
      readItems (fuel + 1) depth s acc = readItems fuel depth s acc)
    (h : Suffices (2 * s.length + 2) (fuel + 1) (readItems (fuel + 1) depth s acc)) :
    readItems (fuel + 2) depth s acc = readItems (fuel + 1) depth s acc := by
  rw [readItems] at h
  have hfirst : readValue (fuel + 1) depth s = readValue fuel depth s := by
    apply hvalue
    apply h.of_first (by omega)
    intro e hread
    rw [hread]
  unfold readItems
  rw [hfirst]
  cases hread : readValue fuel depth s with
  | error e => rfl
  | ok found =>
    obtain ⟨item, behind⟩ := found
    have hbehind := (shortens_read fuel depth).1 hread
    rw [hread] at h
    dsimp only at h ⊢
    split
    · rfl
    · next rest hcomma =>
      have hrest := length_lt_of_skipSpace_eq hcomma
      have hspace := length_skipSpace_le rest
      rw [hcomma] at h
      exact hitems _ _ (h.mono (by omega))
    · rfl

theorem readFields_step {s text behindName behindColon : List Char} {name : List CodePoint}
    (hs : s = '\x22' :: text)
    (hname : readText s (text.length + 1) text [] = .ok (name, behindName))
    (hcolon : skipSpace behindName = ':' :: behindColon) (fuel depth : Nat) (acc : List Field) :
    readFields (fuel + 1) depth s acc
      =
    match readValue fuel depth (skipSpace behindColon) with
    | .error e => .error e
    | .ok (value, rest) =>
      match skipSpace rest with
      | '\x7d' :: rest => .ok (.object (setField acc name value), rest)
      | ',' :: rest => readFields fuel depth (skipSpace rest) (setField acc name value)
      | rest => fault .noComma rest := by
  subst hs
  rw [readFields, hname]
  dsimp only
  split
  · next hcolon' =>
    rw [hcolon] at hcolon'
    cases hcolon'
    rfl
  · next hne => exact absurd hcolon (hne _)

theorem readFields_succ {fuel depth : Nat} {s : List Char} {acc : List Field}
    (hvalue : ∀ s, Suffices (2 * s.length + 1) fuel (readValue fuel depth s) →
      readValue (fuel + 1) depth s = readValue fuel depth s)
    (hfields : ∀ s acc, Suffices (2 * s.length + 2) fuel (readFields fuel depth s acc) →
      readFields (fuel + 1) depth s acc = readFields fuel depth s acc)
    (h : Suffices (2 * s.length + 2) (fuel + 1) (readFields (fuel + 1) depth s acc)) :
    readFields (fuel + 2) depth s acc = readFields (fuel + 1) depth s acc := by
  unfold readFields
  split
  · next text =>
    cases hname : readText ('\x22' :: text) (text.length + 1) text [] with
    | error e => rfl
    | ok found =>
      obtain ⟨name, behindName⟩ := found
      have hbehindName := shortens_readText hname
      dsimp only
      split
      · next behindColon hcolon =>
        have hbehindColon := length_lt_of_skipSpace_eq hcolon
        have hspace := length_skipSpace_le behindColon
        rw [readFields_step rfl hname hcolon, List.length_cons] at h
        have hfirst : readValue (fuel + 1) depth (skipSpace behindColon)
            = readValue fuel depth (skipSpace behindColon) := by
          apply hvalue
          apply h.of_first (by omega)
          intro e hread
          rw [hread]
        rw [hfirst]
        cases hread : readValue fuel depth (skipSpace behindColon) with
        | error e => rfl
        | ok found =>
          obtain ⟨item, behindValue⟩ := found
          have hbehindValue := (shortens_read fuel depth).1 hread
          rw [hread] at h
          dsimp only at h ⊢
          split
          · rfl
          · next rest hcomma =>
            have hrest := length_lt_of_skipSpace_eq hcomma
            have hspace' := length_skipSpace_le rest
            rw [hcomma] at h
            exact hfields _ _ (h.mono (by omega))
          · rfl
      · rfl
  · rfl

/--
One more unit of fuel reads the same.
-/
theorem read_succ (fuel depth : Nat) :
    (∀ s, Suffices (2 * s.length + 1) fuel (readValue fuel depth s) →
      readValue (fuel + 1) depth s = readValue fuel depth s)
      ∧ (∀ s acc, Suffices (2 * s.length + 2) fuel (readItems fuel depth s acc) →
          readItems (fuel + 1) depth s acc = readItems fuel depth s acc)
      ∧ (∀ s acc, Suffices (2 * s.length + 2) fuel (readFields fuel depth s acc) →
          readFields (fuel + 1) depth s acc = readFields fuel depth s acc) := by
  induction fuel generalizing depth with
  | zero => simp [Suffices, readValue, readItems, readFields, fault]
  | succ fuel ih =>
    obtain ⟨hvalue, hitems, hfields⟩ := ih depth
    refine ⟨?_, ?_, ?_⟩
    · intro s
      exact readValue_succ (fun depth s => (ih depth).2.1 s []) (fun depth s => (ih depth).2.2 s [])
    · intro s acc
      exact readItems_succ hvalue hitems
    · intro s acc
      exact readFields_succ hvalue hfields

theorem readValue_add {fuel depth : Nat} {s : List Char} (h : 2 * s.length + 1 ≤ fuel) (more : Nat) :
    readValue (fuel + more) depth s = readValue fuel depth s := by
  induction more with
  | zero => rfl
  | succ more ih => rw [← Nat.add_assoc, (read_succ (fuel + more) depth).1 s (.inl (by omega)), ih]

theorem readValue_add_of_eq_ok {fuel depth : Nat} {s : List Char} {found : Json × List Char}
    (h : readValue fuel depth s = .ok found) (more : Nat) :
    readValue (fuel + more) depth s = .ok found := by
  induction more with
  | zero => exact h
  | succ more ih => rw [← Nat.add_assoc, (read_succ (fuel + more) depth).1 s (.inr ⟨found, ih⟩), ih]

/--
What is read with any fuel is read with as much as the text needs.
-/
theorem readValue_of_eq_ok {fuel enough depth : Nat} {s : List Char} {found : Json × List Char}
    (h : readValue fuel depth s = .ok found) (henough : 2 * s.length + 1 ≤ enough) :
    readValue enough depth s = .ok found := by
  rw [← readValue_add henough fuel, Nat.add_comm]
  exact readValue_add_of_eq_ok h enough

theorem Starts.length_lt {depth : Nat} {s rest : List Char} {f : Field} (h : Starts depth s f rest) :
    rest.length < s.length := by
  obtain ⟨text, behindName, behindColon, behindValue, fuel, rfl, hname, hcolon, hvalue, rfl⟩ := h
  have hbehindName := shortens_readText hname
  have hbehindColon := length_lt_of_skipSpace_eq hcolon
  have hspace := length_skipSpace_le behindColon
  have hbehindValue := (shortens_read fuel depth).1 hvalue
  have hspace' := length_skipSpace_le behindValue
  rw [List.length_cons]
  omega

theorem Starts.readFields_eq {depth fuel : Nat} {s rest : List Char} {f : Field}
    (h : Starts depth s f rest) (hfuel : 2 * s.length + 1 ≤ fuel) (acc : List Field) :
    ∃ behind,
      skipSpace behind = rest
        ∧ readFields (fuel + 1) depth s acc
            =
          match skipSpace behind with
          | '\x7d' :: rest => .ok (.object (setField acc f.1 f.2), rest)
          | ',' :: rest => readFields fuel depth (skipSpace rest) (setField acc f.1 f.2)
          | rest => fault .noComma rest := by
  obtain ⟨text, behindName, behindColon, behindValue, fuel', rfl, hname, hcolon, hvalue, hrest⟩ := h
  have hbehindName := shortens_readText hname
  have hbehindColon := length_lt_of_skipSpace_eq hcolon
  have hspace := length_skipSpace_le behindColon
  rw [List.length_cons] at hfuel
  refine ⟨behindValue, hrest, ?_⟩
  rw [readFields_step rfl hname hcolon, readValue_of_eq_ok hvalue (by omega)]

theorem Lists.readFields_eq {depth fuel : Nat} {s rest : List Char} {listed : List Field}
    (h : Lists depth s listed rest) (hfuel : 2 * s.length + 1 ≤ fuel) (acc : List Field) :
    readFields (fuel + 1) depth s acc = .ok (.object (setFields acc listed), rest) := by
  induction h generalizing fuel acc with
  | last hf =>
    obtain ⟨behind, hbehind, hread⟩ := hf.readFields_eq hfuel acc
    rw [hread, hbehind]
    rfl
  | @cons s rest _ f listed hf _ ih =>
    obtain ⟨behind, hbehind, hread⟩ := hf.readFields_eq hfuel acc
    have hlen := hf.length_lt
    have hspace := length_skipSpace_le rest
    rw [List.length_cons] at hlen
    obtain ⟨fuel, rfl⟩ : ∃ n, fuel = n + 1 := ⟨fuel - 1, by omega⟩
    rw [hread, hbehind]
    exact ih (by omega) (setField acc f.1 f.2)

theorem Lists.head?_eq {depth : Nat} {s rest : List Char} {listed : List Field}
    (h : Lists depth s listed rest) : s.head? = some '\x22' := by
  cases h with
  | last hf | cons hf =>
    obtain ⟨text, _, _, _, _, rfl, -⟩ := hf
    rfl

theorem skipSpace_of_head? {s : List Char} {c : Char} (h : s.head? = some c) (hc : ¬isSpace c) :
    skipSpace s = s := by
  cases s with
  | nil => rfl
  | cons x rest =>
    cases h
    rw [skipSpace, List.dropWhile_cons_of_neg hc]

/--
The fuel with which a whole text is read does not run out, whatever the text.
-/
theorem readValue_skipSpace_add (depth : Nat) (s : List Char) (more : Nat) :
    readValue (2 * s.length + 2 + more) depth (skipSpace s)
      =
    readValue (2 * s.length + 2) depth (skipSpace s) := by
  have hspace := length_skipSpace_le s
  apply readValue_add
  omega

/--
A text that spells an object is read as that object.
-/
theorem Spells.parse_eq {depth : Nat} {s : String} {listed : List Field} (h : Spells depth s listed) :
    parse depth s = .ok (.object (setFields [] listed)) := by
  obtain ⟨inner, text, behind, rfl, hs, hlisted, hbehind⟩ := h
  have hspace := length_lt_of_skipSpace_eq hs
  have hmark : s.toList.head? ≠ some '\ufeff' := by
    intro hmark
    rw [skipSpace_of_head? hmark (by decide)] at hs
    rw [hs, List.head?_cons] at hmark
    exact absurd hmark (by decide)
  have hvalue : readValue (2 * s.toList.length + 2) (inner + 1) ('\x7b' :: text)
      = .ok (.object (setFields [] listed), behind) := by
    rcases hlisted with ⟨rfl, hclose⟩ | hlisted
    · simp only [readValue, hclose]
      rfl
    · have hfuel := length_skipSpace_le text
      have hopen : ∀ rest, skipSpace text ≠ '\x7d' :: rest := by
        intro rest hrest
        have hhead := hlisted.head?_eq
        rw [hrest, List.head?_cons] at hhead
        exact absurd hhead (by decide)
      rw [readValue_object hopen]
      exact hlisted.readFields_eq (by omega) []
  rw [parse, read, if_neg hmark, hs, hvalue]
  dsimp only
  rw [hbehind]
  rfl

theorem parse_eq_ok_object_iff {depth : Nat} {s : String} {fields : List Field} :
    parse depth s = .ok (.object fields)
      ↔
    ∃ listed, Spells depth s listed ∧ fields = setFields [] listed := by
  constructor
  · apply exists_spells_of_parse_eq_ok_object
  · rintro ⟨listed, hspells, rfl⟩
    exact hspells.parse_eq

end Json
end EvmSelectors
