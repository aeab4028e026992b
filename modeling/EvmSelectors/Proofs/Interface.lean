import EvmSelectors.Interface
import EvmSelectors.Proofs.Composition

/-!
This module contains the laws of the guess of an interface: it depends on which selectors are found, not
on their order or number, and more selectors never lead to a lower guess.
-/

namespace EvmSelectors

namespace ContractKind

/--
The place of a kind in the order in which the interfaces are preferred.
-/
def rank : ContractKind → Nat
  | unknown => 0
  | erc721 => 1
  | erc20 => 2

theorem eq_of_rank_eq {kind kind' : ContractKind} (h : kind.rank = kind'.rank) : kind = kind' := by
  cases kind <;> cases kind' <;> simp_all [rank]

end ContractKind

/--
Whether all selectors of an interface are found.
-/
def Interface.IsCovered (i : Interface) (found : List Bytes) : Prop :=
  ∀ b ∈ i.selectors, b ∈ found

theorem hasAll_iff_isCovered {i : Interface} {found : List Bytes} :
    hasAll i.selectors found ↔ i.IsCovered found := by
  simp [hasAll, Interface.IsCovered]

theorem Interface.IsCovered.mono {i : Interface} {found found' : List Bytes} (h : i.IsCovered found)
    (hle : ∀ b ∈ found, b ∈ found') : i.IsCovered found' := by
  intro b hb
  exact hle b (h b hb)

/--
The three guesses, and what is found for each of them.
-/
theorem classify_cases (found : List Bytes) :
    (classify found = .erc20 ∧ Interface.erc20.IsCovered found)
      ∨ (classify found = .erc721
          ∧ ¬Interface.erc20.IsCovered found
          ∧ Interface.erc721.IsCovered found)
      ∨ (classify found = .unknown
          ∧ ¬Interface.erc20.IsCovered found
          ∧ ¬Interface.erc721.IsCovered found) := by
  simp only [← hasAll_iff_isCovered]
  unfold classify Interface.known
  rw [List.find?_cons, List.find?_cons, List.find?_nil]
  cases h20 : hasAll Interface.erc20.selectors found with
  | true =>
    left
    exact ⟨rfl, rfl⟩
  | false =>
    right
    cases h721 : hasAll Interface.erc721.selectors found with
    | true =>
      left
      exact ⟨rfl, Bool.false_ne_true, rfl⟩
    | false =>
      right
      exact ⟨rfl, Bool.false_ne_true, Bool.false_ne_true⟩

theorem rank_classify_le {found found' : List Bytes} (h : ∀ b ∈ found, b ∈ found') :
    (classify found).rank ≤ (classify found').rank := by
  have h20 : Interface.erc20.IsCovered found → Interface.erc20.IsCovered found' := fun hi => hi.mono h
  have h721 : Interface.erc721.IsCovered found → Interface.erc721.IsCovered found' :=
    fun hi => hi.mono h
  rcases classify_cases found with ⟨hk, hcovered⟩ | ⟨hk, -, hcovered⟩ | ⟨hk, -, -⟩
  · -- The most preferred interface stays covered, and the others rank below it.
    rcases classify_cases found' with ⟨hk', -⟩ | ⟨-, hnot, -⟩ | ⟨-, hnot, -⟩
    · rw [hk, hk']
    · exact absurd (h20 hcovered) hnot
    · exact absurd (h20 hcovered) hnot
  · rcases classify_cases found' with ⟨hk', -⟩ | ⟨hk', -, -⟩ | ⟨-, -, hnot⟩
    · rw [hk, hk']
      decide
    · rw [hk, hk']
    · exact absurd (h721 hcovered) hnot
  · rw [hk]
    apply Nat.zero_le

theorem classify_congr {found found' : List Bytes} (h : ∀ b, b ∈ found ↔ b ∈ found') :
    classify found = classify found' := by
  apply ContractKind.eq_of_rank_eq
  apply Nat.le_antisymm
  · exact rank_classify_le (fun b => (h b).1)
  · exact rank_classify_le (fun b => (h b).2)

theorem classifyValues_map_bytes (memory : Nat) (found : List Bytes) :
    classifyValues memory (found.map .bytes) = .ok (classify found) := by
  rw [classifyValues_eq, ByteSource.allToBytes_map_bytes]
  rfl

/--
Code that follows other code takes no selector from it.
-/
theorem exists_scanCode_append (code after : Bytes) :
    ∃ found found' : Scan,
      scanCode code = .ok found
        ∧ scanCode (code ++ after) = .ok found'
        ∧ ∀ b ∈ found.selectors.bytes, b ∈ found'.selectors.bytes := by
  obtain ⟨found, hfound⟩ := exists_findings_disassemble code
  obtain ⟨found', hfound'⟩ := exists_findings_disassemble (code ++ after)
  obtain ⟨more, rfl⟩ := findings_isPrefix_append hfound hfound'
  refine ⟨_, _, scanCode_of_findings_eq_ok hfound, scanCode_of_findings_eq_ok hfound', ?_⟩
  intro b hb
  exact (Scan.bytes_selectors_ofFindings_isPrefix_append found more).mem hb

/--
The guess is all or nothing: six selectors make an ERC20 token, else nine make an ERC721 token. It depends
on the found selectors as a set and goes up with this set, so that more code never leads to a lower guess.
-/
theorem classify_by_coverage (memory : Nat) (found : List Bytes) :
    classifyValues memory (found.map .bytes) = .ok (classify found)
      ∧ (Interface.erc20.selectors.Nodup ∧ Interface.erc20.selectors.length = 6)
      ∧ (Interface.erc721.selectors.Nodup ∧ Interface.erc721.selectors.length = 9)
      ∧ (classify found = .erc20 ↔ ∀ b ∈ Interface.erc20.selectors, b ∈ found)
      ∧ (classify found = .erc721
            ↔
          ¬(∀ b ∈ Interface.erc20.selectors, b ∈ found) ∧ ∀ b ∈ Interface.erc721.selectors, b ∈ found)
      ∧ (classify found = .unknown
            ↔
          ¬(∀ b ∈ Interface.erc20.selectors, b ∈ found)
            ∧ ¬(∀ b ∈ Interface.erc721.selectors, b ∈ found))
      ∧ (∀ more, (∀ b ∈ found, b ∈ more) → (classify found).rank ≤ (classify more).rank)
      ∧ (∀ same, (∀ b, b ∈ found ↔ b ∈ same) → classify found = classify same)
      ∧ (∀ code after,
          ∃ kind kind',
            classifyCode code = .ok kind
              ∧ classifyCode (code ++ after) = .ok kind'
              ∧ kind.rank ≤ kind'.rank) := by
  have hcases := classify_cases found
  unfold Interface.IsCovered at hcases
  refine ⟨classifyValues_map_bytes memory found, by decide, by decide, ?_, ?_, ?_,
    fun more => rank_classify_le, fun same => classify_congr, ?_⟩
  · grind
  · grind
  · grind
  · intro code after
    obtain ⟨found, found', hfound, hfound', hmem⟩ := exists_scanCode_append code after
    exact ⟨_, _, classifyCode_of_scanCode_eq_ok hfound, classifyCode_of_scanCode_eq_ok hfound',
      rank_classify_le hmem⟩

end EvmSelectors
