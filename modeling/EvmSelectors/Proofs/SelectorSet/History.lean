import EvmSelectors.Proofs.SelectorSet
import EvmSelectors.Selector.Action

/-!
This module contains the laws of a set of selectors over whole runs: after any actions, refused ones among
them, the set lists what has been put in, each element where it came in first.
-/

namespace EvmSelectors
namespace SelectorSet

/--
The byte string that an action puts in. Only an added value that stands for four bytes does so.
-/
def Action.entered? (memory : Nat) : Action → Option Bytes
  | .add value =>
    match value.toBytes memory with
    | .ok b => if b.length = Selector.size then some b else none
    | .error _ => none
  | .query _ => none

theorem bytes_empty : empty.bytes = [] := rfl

theorem size_eq_length_bytes (s : SelectorSet) : s.size = s.bytes.length := by
  rw [size_eq_length_toList, bytes, List.length_map]

theorem bytes_mem_bytes_iff {s : SelectorSet} {x : Selector} : x.bytes ∈ s.bytes ↔ x ∈ s.toList := by
  unfold bytes
  rw [List.mem_map]
  constructor
  · rintro ⟨y, hy, h⟩
    rw [← Selector.bytes_injective h]
    exact hy
  · intro h
    exact ⟨x, h, rfl⟩

theorem insert_of_mem {s : SelectorSet} {x : Selector} (h : x.bytes ∈ s.bytes) : s.insert x = s := by
  rw [bytes_mem_bytes_iff, ← contains_iff_mem_toList] at h
  unfold insert
  rw [dif_pos h]

theorem bytes_insert_of_not_mem {s : SelectorSet} {x : Selector} (h : x.bytes ∉ s.bytes) :
    (s.insert x).bytes = s.bytes ++ [x.bytes] := by
  rw [bytes_mem_bytes_iff] at h
  unfold bytes
  rw [toList_insert_of_not_mem h, List.map_append]
  rfl

/--
All that an action can do to a set, with the set behind it and the answer.
-/
inductive Acting (memory : Nat) (s : SelectorSet) :
    Action → SelectorSet → Except Error Answer → Prop where
  | refused {value : ByteSource} {e : ByteSource.Error} (h : value.toBytes memory = .error e) :
      Acting memory s (.add value) s (.error (.bytes e))
  | missized {value : ByteSource} {b : Bytes} (h : value.toBytes memory = .ok b)
      (hlen : b.length ≠ Selector.size) :
      Acting memory s (.add value) s (.error (.size b.length))
  | present {value : ByteSource} {b : Bytes} (h : value.toBytes memory = .ok b)
      (hlen : b.length = Selector.size) (hmem : b ∈ s.bytes) :
      Acting memory s (.add value) s (.ok (.truth false))
  | entered {value : ByteSource} {b : Bytes} {t : SelectorSet} (h : value.toBytes memory = .ok b)
      (hlen : b.length = Selector.size) (hmem : b ∉ s.bytes) (ht : t.bytes = s.bytes ++ [b]) :
      Acting memory s (.add value) t (.ok (.truth true))
  | asked {q : Query} : Acting memory s (.query q) s (s.ask memory q)

theorem acting_act (memory : Nat) (s : SelectorSet) (action : Action) :
    Acting memory s action (s.act memory action).1 (s.act memory action).2 := by
  cases action with
  | query q => exact .asked
  | add value =>
    rw [act, add, selectorOf_eq]
    cases hvalue : value.toBytes memory with
    | error e => exact .refused hvalue
    | ok b =>
      dsimp only
      cases hx : Selector.ofBytes b with
      | error n =>
        obtain ⟨hlen, rfl⟩ := Selector.ofBytes_eq_error_iff.1 hx
        exact .missized hvalue hlen
      | ok x =>
        rw [Selector.ofBytes_eq_ok_iff] at hx
        subst hx
        dsimp only
        by_cases hmem : x.bytes ∈ s.bytes
        · have hx : s.contains x := contains_iff_mem_toList.2 (bytes_mem_bytes_iff.1 hmem)
          rw [insert_of_mem hmem, hx]
          exact .present hvalue x.length_bytes hmem
        · have hx : s.contains x = false := by
            rw [← Bool.not_eq_true, contains_iff_mem_toList, ← bytes_mem_bytes_iff]
            exact hmem
          rw [hx]
          exact .entered hvalue x.length_bytes hmem (bytes_insert_of_not_mem hmem)

theorem bytes_act (memory : Nat) (s : SelectorSet) (action : Action) :
    (s.act memory action).1.bytes = (s.bytes ++ (action.entered? memory).toList).eraseDups := by
  have hacting := acting_act memory s action
  generalize (s.act memory action).1 = t, (s.act memory action).2 = answer at hacting
  cases hacting with
  | refused h => simp [Action.entered?, h, eraseDups_of_nodup s.nodup_bytes]
  | missized h hlen => simp [Action.entered?, h, hlen, eraseDups_of_nodup s.nodup_bytes]
  | present h hlen hmem =>
    simp [Action.entered?, h, hlen, eraseDups_append_cons_of_mem hmem,
      eraseDups_of_nodup s.nodup_bytes]
  | entered h hlen hmem ht =>
    have hnodup := t.nodup_bytes
    rw [ht] at hnodup
    simp [Action.entered?, h, hlen, ht, eraseDups_of_nodup hnodup]
  | asked => simp [Action.entered?, eraseDups_of_nodup s.nodup_bytes]

/--
The set behind actions one after the other.
-/
def after (s : SelectorSet) (memory : Nat) (actions : List Action) : SelectorSet :=
  actions.foldl (fun s action => (s.act memory action).1) s

theorem after_cons (memory : Nat) (s : SelectorSet) (action : Action) (rest : List Action) :
    s.after memory (action :: rest) = (s.act memory action).1.after memory rest := rfl

theorem after_append (memory : Nat) (s : SelectorSet) (actions actions' : List Action) :
    s.after memory (actions ++ actions') = (s.after memory actions).after memory actions' := by
  unfold after
  rw [List.foldl_append]

theorem bytes_after (memory : Nat) (s : SelectorSet) (actions : List Action) :
    (s.after memory actions).bytes
      =
    (s.bytes ++ actions.filterMap (Action.entered? memory)).eraseDups := by
  induction actions generalizing s with
  | nil => simp [after, eraseDups_of_nodup s.nodup_bytes]
  | cons action rest ih =>
    have hstep := eraseDups_append_eraseDups_append [] (s.bytes ++ (action.entered? memory).toList)
      (rest.filterMap (Action.entered? memory))
    simp only [List.nil_append] at hstep
    rw [after_cons, ih, bytes_act, hstep, List.append_assoc]
    cases h : action.entered? memory <;> simp [h]

theorem perform_getElem? (memory : Nat) (s : SelectorSet) (actions : List Action) (n : Nat) :
    (s.perform memory actions)[n]? = actions[n]?.map ((s.after memory (actions.take n)).act memory) := by
  induction actions generalizing s n with
  | nil => simp [perform]
  | cons action rest ih =>
    cases n with
    | zero => rfl
    | succ n => simpa [perform, after_cons] using ih (s.act memory action).1 n

theorem fst_perform_getElem? (memory : Nat) (s : SelectorSet) {actions : List Action} {n : Nat}
    (h : n ≤ actions.length) :
    (s :: (s.perform memory actions).map Prod.fst)[n]? = some (s.after memory (actions.take n)) := by
  induction actions generalizing s n with
  | nil =>
    rw [List.length_nil, Nat.le_zero] at h
    subst h
    rfl
  | cons action rest ih =>
    cases n with
    | zero => rfl
    | succ n =>
      rw [List.length_cons, Nat.add_le_add_iff_right] at h
      simpa [perform, after_cons] using ih (s.act memory action).1 h

theorem eq_after_of_addAll_eq_ok {memory : Nat} {s t : SelectorSet} {values : List ByteSource}
    (h : s.addAll memory values = .ok t) : t = s.after memory (values.map .add) := by
  induction values generalizing s with
  | nil =>
    cases h
    rfl
  | cons value rest ih =>
    rw [addAll] at h
    split at h
    · cases h
    · next u isNew hadd =>
      have hact : (s.act memory (.add value)).1 = u := by
        rw [act, hadd]
      have hrest := ih h
      rw [← hact] at hrest
      exact hrest

/--
The byte strings put in by the values that a set starts from and then by actions, in order.
-/
def history (memory : Nat) (init : List ByteSource) (actions : List Action) : List Bytes :=
  (init.map Action.add ++ actions).filterMap (Action.entered? memory)

theorem bytes_after_eq_history {memory : Nat} {init : List ByteSource} {s : SelectorSet}
    (h : ofValues memory init = .ok s) (actions : List Action) :
    (s.after memory actions).bytes = (history memory init actions).eraseDups := by
  rw [eq_after_of_addAll_eq_ok h, ← after_append, bytes_after, bytes_empty, List.nil_append]
  rfl

theorem ask_contains_eq_true_iff {memory : Nat} {s : SelectorSet} {value : ByteSource} :
    s.ask memory (.contains value) = .ok (.truth true)
      ↔
    ∃ b, value.toBytes memory = .ok b ∧ b ∈ s.bytes := by
  rw [ask_contains]
  cases value.toBytes memory with
  | error e => simp
  | ok b => simp [containsBytes]

/--
What the addition of a value does to a set, by the answer to it.
-/
structure Adds (memory : Nat) (value : ByteSource) (before after : SelectorSet)
    (answer : Except Error Answer) : Prop where
  isError_iff : (∃ e, answer = .error e) ↔ ∀ b, value.toBytes memory = .ok b → b.length ≠ 4
  isFalse_iff : answer = .ok (.truth false)
    ↔ ∃ b, value.toBytes memory = .ok b ∧ b.length = 4 ∧ b ∈ before.bytes
  isTrue_iff : answer = .ok (.truth true)
    ↔ ∃ b, value.toBytes memory = .ok b ∧ b.length = 4 ∧ b ∉ before.bytes
  grows : answer = .ok (.truth true) →
    after.size = before.size + 1
      ∧ ∃ b, value.toBytes memory = .ok b ∧ after.bytes = before.bytes ++ [b]
  stays : answer ≠ .ok (.truth true) → after = before

theorem Acting.adds {memory : Nat} {s t : SelectorSet} {value : ByteSource}
    {answer : Except Error Answer} (h : Acting memory s (.add value) t answer) :
    Adds memory value s t answer := by
  cases h with
  | refused h => constructor <;> simp [h]
  | missized h hlen =>
    have hlen : _ ≠ 4 := hlen
    constructor <;> simp [h, hlen]
  | present h hlen hmem =>
    have hlen : _ = 4 := hlen
    constructor <;> simp [h, hlen, hmem]
  | entered h hlen hmem ht =>
    have hlen : _ = 4 := hlen
    constructor <;> simp [h, hlen, hmem, ht, size_eq_length_bytes]

theorem perform_history {memory : Nat} {init : List ByteSource} {s : SelectorSet}
    (h : ofValues memory init = .ok s) (actions : List Action) :
    s.bytes = (history memory init []).eraseDups
      ∧ ∀ n action, actions[n]? = some action →
          ∃ before after answer,
            (s :: (s.perform memory actions).map Prod.fst)[n]? = some before
              ∧ (s.perform memory actions)[n]? = some (after, answer)
              ∧ after.bytes = (history memory init (actions.take (n + 1))).eraseDups
              ∧ after.bytes.Nodup
              ∧ (∀ b ∈ after.bytes, b.length = 4)
              ∧ (∀ value, action = .add value → Adds memory value before after answer)
              ∧ (∀ q, action = .query q → after = before)
              ∧ (∀ value, action = .query (.contains value) →
                  (answer = .ok (.truth true)
                    ↔
                  ∃ b, value.toBytes memory = .ok b ∧ b ∈ history memory init (actions.take n))) := by
  refine ⟨bytes_after_eq_history h [], ?_⟩
  intro n action haction
  obtain ⟨hn, -⟩ := List.getElem?_eq_some_iff.1 haction
  have hstep : s.after memory (actions.take (n + 1))
      = ((s.after memory (actions.take n)).act memory action).1 := by
    rw [List.take_add_one, haction, after_append]
    rfl
  have hbefore := bytes_after_eq_history h (actions.take n)
  have hafter := bytes_after_eq_history h (actions.take (n + 1))
  have hperform := perform_getElem? memory s actions n
  have hfirst := fst_perform_getElem? memory s (Nat.le_of_lt hn)
  rw [hstep] at hafter
  rw [haction] at hperform
  generalize s.after memory (actions.take n) = before at hbefore hafter hperform hfirst
  have hacting := acting_act memory before action
  refine ⟨before, (before.act memory action).1, (before.act memory action).2, hfirst, hperform, hafter,
    nodup_bytes _, ?_, ?_, ?_, ?_⟩
  · intro b hb
    exact length_of_mem_bytes hb
  · rintro value rfl
    exact hacting.adds
  · rintro q rfl
    rfl
  · rintro value rfl
    rw [act, ask_contains_eq_true_iff, hbefore]
    simp only [List.mem_eraseDups]

-- Two values are refused, for an octet and for their number, before four zero bytes come in.
theorem perform_history_refused :
    let memory := 4096
    let init := [.bytes [1, 2, 3, 4]]
    let actions := [.add (.octets [some 256]), .add (.zeros 5), .add (.zeros 4)]
    ∃ s after answer,
      ofValues memory init = .ok s
        ∧ (s.perform memory actions)[2]? = some (after, answer)
        ∧ after.bytes = [[1, 2, 3, 4], [0, 0, 0, 0]] := by
  intro memory init actions
  have hinit : ofValues memory init = .ok (empty.insert ⟨0x01020304, by decide⟩) := rfl
  obtain ⟨-, hperform⟩ := perform_history hinit actions
  obtain ⟨-, after, answer, -, hafter, hbytes, -⟩ := hperform 2 (.add (.zeros 4)) rfl
  have hhistory : (history memory init (actions.take 3)).eraseDups = [[1, 2, 3, 4], [0, 0, 0, 0]] := rfl
  exact ⟨_, after, answer, hinit, hafter, hbytes.trans hhistory⟩

end SelectorSet
end EvmSelectors
