import EvmSelectors.Proofs.Command.Effects

/-!
This module contains what a run prints and writes: the listing, the selectors and the kind that the
library gives for the code, and an output file from which the selectors can be read back.
-/

namespace EvmSelectors

theorem Options.unlines_append (lines lines' : List String) :
    unlines (lines ++ lines') = unlines lines ++ unlines lines' := by
  unfold unlines
  rw [List.map_append, String.join_append]

namespace Command

end Command
end EvmSelectors
