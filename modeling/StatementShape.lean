import StatementShape.Main
import StatementShape.Proofs.Classify.Outcome
import StatementShape.Proofs.Classify.Remarks
import StatementShape.Proofs.Classify.Shape
import StatementShape.Proofs.CommandLine.Classify
import StatementShape.Proofs.Config.Frame
import StatementShape.Proofs.Log.Retention
import StatementShape.Proofs.Statement.Placement
import StatementShape.Proofs.Statement.Root
import StatementShape.Proofs.Statement.Derivation
import StatementShape.Proofs.Classify.Several
import StatementShape.Proofs.CommandLine.Home
import StatementShape.Proofs.CommandLine.Line
import StatementShape.Proofs.Log.Projects
import StatementShape.Proofs.Statement.Slice
import StatementShape.Proofs.Statement.Source
import StatementShape.Proofs.CommandLine.Unusable
import StatementShape.Proofs.Classify.Record
import StatementShape.Proofs.Log.Cleanup
import StatementShape.Proofs.Statement.Unclosed
import StatementShape.Proofs.Report.Members
import StatementShape.Proofs.Config.Overlay
import StatementShape.Proofs.CommandLine.Shown
import StatementShape.Proofs.CommandLine.Input
import StatementShape.Proofs.Statement.TableEnd
