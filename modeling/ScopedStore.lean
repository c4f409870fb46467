import ScopedStore.Main
import ScopedStore.CommandLine.Directory
import ScopedStore.Proofs.Atomicity
import ScopedStore.Proofs.Audit
import ScopedStore.Proofs.Isolation
import ScopedStore.Proofs.Analysis
import ScopedStore.Proofs.Sentences
import ScopedStore.Proofs.Confinement
import ScopedStore.Proofs.Mirror
import ScopedStore.Proofs.CompoundText
import ScopedStore.Proofs.Appending
import ScopedStore.Proofs.Grammar
import ScopedStore.Proofs.Policies
import ScopedStore.Proofs.Checking
import ScopedStore.Proofs.Splicing
import ScopedStore.Proofs.Untimed
import ScopedStore.Proofs.Reporting
import ScopedStore.Proofs.Concatenation
import ScopedStore.Proofs.Locality
import ScopedStore.Proofs.Differences
import ScopedStore.Proofs.Merging
import ScopedStore.Proofs.Retention
import ScopedStore.Proofs.Undo
import ScopedStore.Proofs.KeyValidity
import ScopedStore.Proofs.PatternSearch
import ScopedStore.Proofs.PatternGroups
import ScopedStore.Proofs.WholeNames
import ScopedStore.Proofs.Exports
import ScopedStore.Proofs.TypedValues
import ScopedStore.Proofs.EnumTokens
import ScopedStore.Proofs.Listeners
import ScopedStore.Proofs.Delivery
import ScopedStore.Proofs.Window
import ScopedStore.Proofs.JsonLines
import ScopedStore.Proofs.Counters
import ScopedStore.Proofs.Subtraction
import ScopedStore.Proofs.Faults
import ScopedStore.Proofs.ImportLines
import ScopedStore.Proofs.Patches
import ScopedStore.Proofs.CompoundNormal
import ScopedStore.Proofs.ScriptedKeys
import ScopedStore.Proofs.StoredNumbers
import ScopedStore.Proofs.Clearing
import ScopedStore.Proofs.KeyTexts
import ScopedStore.Proofs.FlagOrder
