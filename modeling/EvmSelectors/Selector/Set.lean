import EvmSelectors.ByteSource
import EvmSelectors.Selector.Basic

/-!
This module contains sets of selectors, which keep the order in which their elements came in.
-/

namespace EvmSelectors

/--
A set of selectors. Its elements are kept with the latest first.
-/
structure SelectorSet where
  latest : List Selector
  nodup : latest.Nodup

namespace SelectorSet

def empty : SelectorSet where
  latest := []
  nodup := List.nodup_nil

/--
The elements in the order in which they came in.
-/
def toList (s : SelectorSet) : List Selector :=
  s.latest.reverse

theorem nodup_toList (s : SelectorSet) : s.toList.Nodup := by
  unfold toList List.Nodup
  rw [List.pairwise_reverse]
  exact List.Pairwise.imp Ne.symm s.nodup

theorem toList_empty : empty.toList = [] := rfl

/--
Sets are equal if they have the same elements in the same order.
-/
instance : BEq SelectorSet where
  beq s t := s.toList == t.toList

theorem beq_iff_toList_eq {s t : SelectorSet} : s == t ↔ s.toList = t.toList := by
  change (s.toList == t.toList) = true ↔ s.toList = t.toList
  rw [beq_iff_eq]

def size (s : SelectorSet) : Nat :=
  s.latest.length

theorem size_eq_length_toList (s : SelectorSet) : s.size = s.toList.length := by
  simp [size, toList]

def isEmpty (s : SelectorSet) : Bool :=
  s.latest.isEmpty

theorem isEmpty_eq_isEmpty_toList (s : SelectorSet) : s.isEmpty = s.toList.isEmpty := by
  simp [isEmpty, toList]

def bytes (s : SelectorSet) : List Bytes :=
  s.toList.map Selector.bytes

def contains (s : SelectorSet) (x : Selector) : Bool :=
  s.latest.any (fun y => y.value == x.value)

theorem contains_iff_mem_latest {s : SelectorSet} {x : Selector} : s.contains x ↔ x ∈ s.latest := by
  unfold contains
  rw [List.any_eq_true]
  constructor
  · rintro ⟨y, hy, h⟩
    rw [← Selector.value_injective (beq_iff_eq.1 h)]
    exact hy
  · intro h
    exact ⟨x, h, beq_self_eq_true _⟩

theorem contains_iff_mem_toList {s : SelectorSet} {x : Selector} : s.contains x ↔ x ∈ s.toList := by
  rw [contains_iff_mem_latest]
  simp [toList]

def containsBytes (s : SelectorSet) (b : Bytes) : Bool :=
  s.bytes.contains b

theorem length_of_mem_bytes {s : SelectorSet} {b : Bytes} (h : b ∈ s.bytes) :
    b.length = Selector.size := by
  unfold bytes at h
  rw [List.mem_map] at h
  obtain ⟨x, _, rfl⟩ := h
  exact x.length_bytes

theorem containsBytes_take (s : SelectorSet) (b : Bytes) :
    s.containsBytes (b.take (Selector.size + 1)) = s.containsBytes b := by
  have h : b.take (Selector.size + 1) ∈ s.bytes ↔ b ∈ s.bytes := by
    constructor
    · intro hb
      have hl := length_of_mem_bytes hb
      rw [← (Bytes.take_eq_iff (Nat.le_of_eq hl)).1 rfl] at hb
      exact hb
    · intro hb
      rw [List.take_of_length_le (by rw [length_of_mem_bytes hb]; omega)]
      exact hb
  unfold containsBytes
  simp only [List.contains_eq_mem, h]

/--
Puts a new element last. An element that is there already keeps its place.
-/
def insert (s : SelectorSet) (x : Selector) : SelectorSet :=
  if h : s.contains x then
    s
  else
    {
      latest := x :: s.latest
      nodup := List.nodup_cons.2 ⟨fun hx => h (contains_iff_mem_latest.2 hx), s.nodup⟩
    }

theorem toList_insert_of_mem {s : SelectorSet} {x : Selector} (h : x ∈ s.toList) :
    (s.insert x).toList = s.toList := by
  have hx : s.contains x := contains_iff_mem_toList.2 h
  simp [insert, hx]

theorem toList_insert_of_not_mem {s : SelectorSet} {x : Selector} (h : x ∉ s.toList) :
    (s.insert x).toList = s.toList ++ [x] := by
  have hx : ¬s.contains x := fun hx => h (contains_iff_mem_toList.1 hx)
  simp [insert, hx, toList]

theorem mem_toList_insert {s : SelectorSet} {x y : Selector} :
    y ∈ (s.insert x).toList ↔ y ∈ s.toList ∨ y = x := by
  by_cases h : x ∈ s.toList
  · rw [toList_insert_of_mem h]
    constructor
    · exact Or.inl
    · rintro (hy | rfl) <;> assumption
  · rw [toList_insert_of_not_mem h]
    simp

inductive Error where
  | bytes (cause : ByteSource.Error)
  | size (bytes : Nat)
  deriving DecidableEq

/--
The selector that a value stands for. Its length is looked at before its bytes are made.
-/
def selectorOf (memory : Nat) (value : ByteSource) : Except Error Selector :=
  match value.size memory with
  | .error e => .error (.bytes e)
  | .ok n =>
    if n = Selector.size then
      match value.toBytes memory with
      | .error e => .error (.bytes e)
      | .ok b =>
        match Selector.ofBytes b with
        | .error n => .error (.size n)
        | .ok x => .ok x
    else
      .error (.size n)

theorem selectorOf_eq (memory : Nat) (value : ByteSource) :
    selectorOf memory value =
      match value.toBytes memory with
      | .error e => .error (.bytes e)
      | .ok b =>
        match Selector.ofBytes b with
        | .error n => .error (.size n)
        | .ok x => .ok x := by
  unfold selectorOf
  rw [ByteSource.size_eq_map_toBytes]
  cases value.toBytes memory with
  | error e => rfl
  | ok b =>
    by_cases h : b.length = 4
    · simp [Except.map, Selector.size, h]
    · simp [Except.map, Selector.size, Selector.ofBytes, h]

/--
Puts in the selector that a value stands for, and says whether it is new.
-/
def add (s : SelectorSet) (memory : Nat) (value : ByteSource) : Except Error (SelectorSet × Bool) :=
  match selectorOf memory value with
  | .error e => .error e
  | .ok x => .ok (s.insert x, !s.contains x)

def addAll (s : SelectorSet) (memory : Nat) : List ByteSource → Except Error SelectorSet
  | [] => .ok s
  | value :: rest =>
    match s.add memory value with
    | .error e => .error e
    | .ok (s, _) => s.addAll memory rest

def ofValues (memory : Nat) (values : List ByteSource) : Except Error SelectorSet :=
  empty.addAll memory values

def hexStrings (s : SelectorSet) : List String :=
  s.bytes.map (fun b => String.ofList (markedHex b))

def render (s : SelectorSet) : String :=
  "SelectorSet([" ++ String.intercalate ", " (s.hexStrings.map Text.quoted) ++ "])"

end SelectorSet

end EvmSelectors
