import EvmSelectors.Dispatch.Scan

/-!
This module contains the token interfaces and the guess of the one that a contract implements.
-/

namespace EvmSelectors

inductive ContractKind where
  | erc20
  | erc721
  | unknown
  deriving DecidableEq

def ContractKind.text : ContractKind → String
  | erc20 => "ERC20"
  | erc721 => "ERC721"
  | unknown => "unknown"

def ContractKind.constant : ContractKind → String
  | erc20 => "ERC20"
  | erc721 => "ERC721"
  | unknown => "UNKNOWN"

structure Interface where
  kind : ContractKind
  functions : List (Bytes × String)

namespace Interface

def erc20 : Interface where
  kind := .erc20
  functions :=
    [([0xdd, 0x62, 0xed, 0x3e], "allowance(address,address)"),
     ([0x09, 0x5e, 0xa7, 0xb3], "approve(address,uint256)"),
     ([0x70, 0xa0, 0x82, 0x31], "balanceOf(address)"),
     ([0x18, 0x16, 0x0d, 0xdd], "totalSupply()"),
     ([0xa9, 0x05, 0x9c, 0xbb], "transfer(address,uint256)"),
     ([0x23, 0xb8, 0x72, 0xdd], "transferFrom(address,address,uint256)")]

def erc721 : Interface where
  kind := .erc721
  functions :=
    [([0x70, 0xa0, 0x82, 0x31], "balanceOf(address)"),
     ([0x63, 0x52, 0x21, 0x1e], "ownerOf(uint256)"),
     ([0xb8, 0x8d, 0x4f, 0xde], "safeTransferFrom(address,address,uint256,bytes)"),
     ([0x42, 0x84, 0x2e, 0x0e], "safeTransferFrom(address,address,uint256)"),
     ([0x23, 0xb8, 0x72, 0xdd], "transferFrom(address,address,uint256)"),
     ([0x09, 0x5e, 0xa7, 0xb3], "approve(address,uint256)"),
     ([0xa2, 0x2c, 0xb4, 0x65], "setApprovalForAll(address,bool)"),
     ([0x08, 0x18, 0x12, 0xfc], "getApproved(uint256)"),
     ([0xe9, 0x85, 0xe9, 0xc5], "isApprovedForAll(address,address)")]

def known : List Interface := [erc20, erc721]

def selectors (i : Interface) : List Bytes :=
  i.functions.map Prod.fst

end Interface

def hasAll (required found : List Bytes) : Bool :=
  required.all (fun b => found.contains b)

theorem mem_map_take_iff {n : Nat} {b : Bytes} {found : List Bytes} (h : b.length ≤ n) :
    b ∈ found.map (List.take (n + 1)) ↔ b ∈ found := by
  rw [List.mem_map]
  constructor
  · rintro ⟨c, hc, hb⟩
    rw [Bytes.take_eq_iff h] at hb
    exact hb ▸ hc
  · intro hb
    exact ⟨b, hb, (Bytes.take_eq_iff h).2 rfl⟩

theorem hasAll_map_take {n : Nat} {required found : List Bytes} (h : ∀ b ∈ required, b.length ≤ n) :
    hasAll required (found.map (List.take (n + 1))) = hasAll required found := by
  unfold hasAll
  rw [Bool.eq_iff_iff, List.all_eq_true, List.all_eq_true]
  constructor
  · intro hr b hb
    have hm := hr b hb
    rw [List.contains_iff_mem, mem_map_take_iff (h b hb)] at hm
    exact List.contains_iff_mem.2 hm
  · intro hr b hb
    rw [List.contains_iff_mem, mem_map_take_iff (h b hb)]
    exact List.contains_iff_mem.1 (hr b hb)

def longest : List Bytes → Nat
  | [] => 0
  | b :: rest => max b.length (longest rest)

theorem length_le_longest {b : Bytes} {l : List Bytes} (h : b ∈ l) : b.length ≤ longest l := by
  induction l with
  | nil => cases h
  | cons c l ih =>
    rw [longest]
    cases h with
    | head => omega
    | tail _ h =>
      have := ih h
      omega

def hasAllValues (memory : Nat) (required : List Bytes) (values : List ByteSource) :
    Except ByteSource.Error Bool :=
  (ByteSource.allLeading memory (longest required) values).map (hasAll required)

theorem hasAllValues_eq (memory : Nat) (required : List Bytes) (values : List ByteSource) :
    hasAllValues memory required values
      = (ByteSource.allToBytes memory values).map (hasAll required) := by
  unfold hasAllValues
  rw [ByteSource.allLeading_eq]
  cases ByteSource.allToBytes memory values with
  | error e => rfl
  | ok found => simp [Except.map, hasAll_map_take (fun _ h => length_le_longest h)]

/--
The kind of the first interface all of whose selectors are found.
-/
def classify (found : List Bytes) : ContractKind :=
  match Interface.known.find? (fun i => hasAll i.selectors found) with
  | some i => i.kind
  | none => .unknown

theorem classify_map_take (found : List Bytes) :
    classify (found.map (List.take (Selector.size + 1))) = classify found := by
  have h20 : ∀ b ∈ Interface.erc20.selectors, b.length ≤ Selector.size := by decide
  have h721 : ∀ b ∈ Interface.erc721.selectors, b.length ≤ Selector.size := by decide
  unfold classify Interface.known
  simp only [List.find?_cons, List.find?_nil, hasAll_map_take h20, hasAll_map_take h721]

def classifyValues (memory : Nat) (values : List ByteSource) : Except ByteSource.Error ContractKind :=
  (ByteSource.allLeading memory Selector.size values).map classify

theorem classifyValues_eq (memory : Nat) (values : List ByteSource) :
    classifyValues memory values = (ByteSource.allToBytes memory values).map classify := by
  unfold classifyValues
  rw [ByteSource.allLeading_eq]
  cases ByteSource.allToBytes memory values with
  | error e => rfl
  | ok found => simp [Except.map, classify_map_take]

def SelectorSet.classify (s : SelectorSet) : ContractKind :=
  EvmSelectors.classify s.bytes

def classifyCode (code : Bytes) : Except ScanError ContractKind :=
  match scanCode code with
  | .error e => .error e
  | .ok found => .ok found.selectors.classify

theorem classifyCode_of_scanCode_eq_ok {code : Bytes} {found : Scan} (h : scanCode code = .ok found) :
    classifyCode code = .ok found.selectors.classify := by
  unfold classifyCode
  rw [h]

end EvmSelectors
