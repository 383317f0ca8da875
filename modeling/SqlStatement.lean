import SqlStatement.Engine.Basic
import SqlStatement.Proofs.Marker.Identifier
import SqlStatement.Proofs.Marker.Filling
import SqlStatement.Proofs.Query.Appending
import SqlStatement.Proofs.Query.ErrorModes
import SqlStatement.Proofs.Query.Reading
import SqlStatement.Proofs.Config.Overlay
import SqlStatement.Proofs.Sqlite.Storage
import SqlStatement.Proofs.Value.Tagged
import SqlStatement.Row.Records
import SqlStatement.Proofs.Text.ByteOrder
import SqlStatement.Proofs.Row.Views
import SqlStatement.Proofs.Row.Kept
import SqlStatement.Proofs.Row.Typed
import SqlStatement.Marker.Walk
import SqlStatement.Proofs.Marker.Octets
import SqlStatement.Proofs.Marker.Sight
import SqlStatement.Proofs.Text.Boundary
import SqlStatement.Proofs.Marker.Walk
import SqlStatement.Proofs.Error.Folding
import SqlStatement.Proofs.Row.Parallel
import SqlStatement.Proofs.Query.Emptiness
import SqlStatement.Proofs.Row.Truths
