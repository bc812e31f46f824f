import NestedJoin.Main
import NestedJoin.Workspace
import NestedJoin.Proofs.Chain.LeftNested
import NestedJoin.Proofs.Clause.Offsets
import NestedJoin.Proofs.CommandLine.Batch
import NestedJoin.Proofs.Config.AcceptedLeads
import NestedJoin.Proofs.Converter.Events
import NestedJoin.Proofs.Driver.Commands
import NestedJoin.Proofs.Group.Malformed
import NestedJoin.Proofs.Group.Positions
import NestedJoin.Proofs.Group.TrailingBlanks
import NestedJoin.Proofs.Statement.Depth
import NestedJoin.Proofs.Statement.Fresh
import NestedJoin.Proofs.Statement.Insertions
import NestedJoin.Proofs.Statement.Lossless
import NestedJoin.Proofs.Workspace.Explained
import NestedJoin.Proofs.Workspace.Failures
import NestedJoin.Proofs.Workspace.Order
import NestedJoin.Proofs.Workspace.Transparency
import NestedJoin.Proofs.Text.Case
import NestedJoin.Proofs.Text.FirstMatch
import NestedJoin.Proofs.Statement.Spelling
import NestedJoin.Proofs.Chain.UniqueCut
import NestedJoin.Proofs.Config.Precedence
