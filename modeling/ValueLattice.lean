import ValueLattice.DebugInfo.Staging
import ValueLattice.Main
import ValueLattice.Proofs.DebugInfo.Journal
import ValueLattice.Proofs.DebugInfo.Registration
import ValueLattice.Proofs.DebugInfo.Renting
import ValueLattice.Proofs.DebugInfo.Reordering
import ValueLattice.Proofs.DebugInfo.Sessions
import ValueLattice.Proofs.RegisterValue
import ValueLattice.Proofs.Shell.Failure
import ValueLattice.Proofs.Shell.Language
import ValueLattice.Proofs.Shell.Membership
import ValueLattice.Proofs.ValueSet.Equality
import ValueLattice.Proofs.ValueSet.NormalForm
import ValueLattice.Proofs.ValueSet.Text
import ValueLattice.Proofs.Workspace.ReadThrough
import ValueLattice.Proofs.Workspace.Sorting
import ValueLattice.RegisterValue
import ValueLattice.Shell.Program
import ValueLattice.Shell.Written
import ValueLattice.ValueSet.Membership
import ValueLattice.Proofs.Range
import ValueLattice.Proofs.ValueSet.Readings
import ValueLattice.Numeral.Grammar
import ValueLattice.Proofs.Numeral.Literal
import ValueLattice.Proofs.Text.Trimming
import ValueLattice.Proofs.Numeral.Operand
import ValueLattice.Proofs.Numeral.Shown
import ValueLattice.Proofs.LookupTable
import ValueLattice.Proofs.DebugInfo.Merging
import ValueLattice.Proofs.DebugInfo.Contributors
import ValueLattice.Proofs.DebugInfo.Attribution
import ValueLattice.Proofs.DebugInfo.Naming
import ValueLattice.Proofs.ValueSet.Listing
import ValueLattice.Proofs.Reference.Distance
import ValueLattice.Proofs.Ty
