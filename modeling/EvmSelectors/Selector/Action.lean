import EvmSelectors.Interface

/-!
This module contains the actions on a set of selectors, with values of any form as their arguments.
-/

namespace EvmSelectors
namespace SelectorSet

inductive Query where
  | contains (value : ByteSource)
  | equalsSet (values : List ByteSource)
  | equalsList (values : List ByteSource)
  | equalsOther
  | classify
  | isNonempty
  deriving DecidableEq

inductive Action where
  | add (value : ByteSource)
  | query (q : Query)
  deriving DecidableEq

inductive Answer where
  | truth (b : Bool)
  | kind (k : ContractKind)
  deriving DecidableEq

/--
The comparison with a value that is not a set. Only an array is compared element by element; its
items are read as byte strings.
-/
def Query.equalsJson : Json → Query
  | .array items => equalsList (items.map ByteSource.ofJson)
  | _ => equalsOther

/--
What a set answers to a question. A list is compared with the elements as they stand, so that a repeated
one makes a difference.
-/
def ask (s : SelectorSet) (memory : Nat) : Query → Except Error Answer
  | .contains value =>
    match value.leading memory Selector.size with
    | .error e => .error (.bytes e)
    | .ok b => .ok (.truth (s.containsBytes b))
  | .equalsSet values =>
    match ofValues memory values with
    | .error e => .error e
    | .ok t => .ok (.truth (s == t))
  | .equalsList values =>
    match ByteSource.allLeading memory Selector.size values with
    | .error e => .error (.bytes e)
    | .ok bs => .ok (.truth (s.bytes == bs))
  | .equalsOther => .ok (.truth false)
  | .classify => .ok (.kind s.classify)
  | .isNonempty => .ok (.truth (!s.isEmpty))

theorem ask_contains (s : SelectorSet) (memory : Nat) (value : ByteSource) :
    s.ask memory (.contains value) =
      match value.toBytes memory with
      | .error e => .error (.bytes e)
      | .ok b => .ok (.truth (s.containsBytes b)) := by
  simp only [ask, ByteSource.leading_eq]
  cases value.toBytes memory with
  | error e => rfl
  | ok b => simp only [Except.map, containsBytes_take]

theorem bytes_eq_map_take_iff (s : SelectorSet) (bs : List Bytes) :
    s.bytes = bs.map (List.take (Selector.size + 1)) ↔ s.bytes = bs := by
  have h : ∀ l : List Bytes, (∀ b ∈ l, b.length = Selector.size) →
      ∀ bs : List Bytes, l = bs.map (List.take (Selector.size + 1)) ↔ l = bs := by
    intro l
    induction l with
    | nil =>
      intro _ bs
      cases bs <;> simp
    | cons b l ih =>
      intro hl bs
      cases bs with
      | nil => simp
      | cons c bs =>
        have hb := hl b (List.mem_cons_self ..)
        have ht := ih (fun x hx => hl x (List.mem_cons_of_mem _ hx)) bs
        rw [List.map_cons, List.cons.injEq, List.cons.injEq, ht, eq_comm,
          Bytes.take_eq_iff (Nat.le_of_eq hb), eq_comm]
  exact h s.bytes (fun _ hb => length_of_mem_bytes hb) bs

theorem ask_equalsList (s : SelectorSet) (memory : Nat) (values : List ByteSource) :
    s.ask memory (.equalsList values) =
      match ByteSource.allToBytes memory values with
      | .error e => .error (.bytes e)
      | .ok bs => .ok (.truth (s.bytes == bs)) := by
  simp only [ask, ByteSource.allLeading_eq]
  cases ByteSource.allToBytes memory values with
  | error e => rfl
  | ok bs =>
    have h : (s.bytes == bs.map (List.take (Selector.size + 1))) = (s.bytes == bs) := by
      rw [Bool.eq_iff_iff, beq_iff_eq, beq_iff_eq, bytes_eq_map_take_iff]
    simp only [Except.map, h]

def act (s : SelectorSet) (memory : Nat) : Action → SelectorSet × Except Error Answer
  | .add value =>
    match s.add memory value with
    | .error e => (s, .error e)
    | .ok (t, isNew) => (t, .ok (.truth isNew))
  | .query q => (s, s.ask memory q)

/--
The sets after actions one after the other, each with the answer to its action.
-/
def perform (s : SelectorSet) (memory : Nat) : List Action → List (SelectorSet × Except Error Answer)
  | [] => []
  | action :: rest =>
    let r := s.act memory action
    r :: r.1.perform memory rest

end SelectorSet
end EvmSelectors
