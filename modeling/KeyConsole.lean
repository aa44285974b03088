import KeyConsole.Main
import KeyConsole.Backend.FileTree.Lemmas
import KeyConsole.Backend.Guarded
import KeyConsole.Storage.Lemmas
import KeyConsole.Value.Equality
import KeyConsole.Proofs.Value.StoredForm
import KeyConsole.Proofs.CommandLine.Spelling
import KeyConsole.Proofs.Double.Word
import KeyConsole.Proofs.Value.Leaves
import KeyConsole.Proofs.Backend.Interchange
import KeyConsole.Proofs.Durability.Custody
import KeyConsole.Proofs.Durability.Slots
import KeyConsole.Proofs.Durability.Memory
import KeyConsole.Proofs.Durability.Reopening
import KeyConsole.Proofs.Durability.Survival
import KeyConsole.Proofs.Step.InTurn
import KeyConsole.Proofs.Session.Flag
import KeyConsole.Proofs.Driver.Script
import KeyConsole.Proofs.Session.Paging
import KeyConsole.Proofs.CommandLine.Lines
import KeyConsole.Proofs.Driver.KeyLines
import KeyConsole.Proofs.Databases.Separation
import KeyConsole.Proofs.Databases.Apart
import KeyConsole.Proofs.Databases.Memory
import KeyConsole.Proofs.Databases.TableFile
import KeyConsole.Proofs.Databases.Isolation
import KeyConsole.Proofs.Storage.Ledger
import KeyConsole.Proofs.Storage.Refinement
import KeyConsole.Proofs.Databases.Unchanged
import KeyConsole.Proofs.Config.Line
import KeyConsole.Proofs.ServerInfo.RoundTrip
import KeyConsole.Proofs.Databases.Figures
import KeyConsole.Proofs.Session.Outcome
import KeyConsole.Proofs.Driver.Breakdown
import KeyConsole.Proofs.Driver.Dispatch
import KeyConsole.Proofs.Driver.EmptyName
import KeyConsole.Proofs.Driver.Serial
import KeyConsole.Proofs.Durability.Reconnection
import KeyConsole.Proofs.Glob.Language
import KeyConsole.Proofs.Command.Lookup
import KeyConsole.Proofs.Command.Execution
import KeyConsole.Proofs.Databases.Maps
import KeyConsole.Proofs.Session.Renaming
import KeyConsole.Proofs.Backend.Range
import KeyConsole.Proofs.Databases.Listing
import KeyConsole.Proofs.Storage.Accounting
import KeyConsole.Proofs.Session.Deletion
import KeyConsole.Proofs.Session.Ranges
import KeyConsole.Proofs.Driver.Agreement
import KeyConsole.Proofs.Value.Equality
import KeyConsole.Proofs.Value.Distinct
import KeyConsole.Proofs.Driver.Stream
import KeyConsole.Proofs.Driver.Expiry
import KeyConsole.Proofs.Config.Flags
import KeyConsole.Proofs.Text.HexEscape
import KeyConsole.Proofs.CommandLine.Grammar
import KeyConsole.Proofs.CommandLine.Derivation
import KeyConsole.Proofs.CommandLine.HexEscape
import KeyConsole.Proofs.CommandLine.Joining
