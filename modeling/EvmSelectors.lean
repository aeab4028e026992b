import EvmSelectors.Main
import EvmSelectors.Proofs.Composition
import EvmSelectors.Proofs.Listing
import EvmSelectors.Proofs.Interface
import EvmSelectors.Proofs.Scan.Outcome
import EvmSelectors.Proofs.SelectorSet.History
import EvmSelectors.Proofs.Hex.Grammar
import EvmSelectors.Proofs.CodeFile.Recognition
import EvmSelectors.Proofs.CodeFile.Saving
import EvmSelectors.Proofs.Json
import EvmSelectors.Proofs.Rpc.Outcome
import EvmSelectors.Proofs.Command
import EvmSelectors.Proofs.Command.Effects
import EvmSelectors.Proofs.Command.Outcome
import EvmSelectors.Proofs.Command.Report
import EvmSelectors.Proofs.Command.Source
import EvmSelectors.Proofs.Scan.Order
import EvmSelectors.Proofs.Scan.PushData
import EvmSelectors.Proofs.CodeFile.Failure
import EvmSelectors.Proofs.Command.NotFound
import EvmSelectors.Proofs.SelectorSet.Equality
import EvmSelectors.Proofs.Scan.PushedValue
