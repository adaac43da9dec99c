/-
Positions in a replication log: what has been read, from where to resume, and
which of two positions comes first.
-/
import BinlogCursor.Command
import BinlogCursor.Cursor.Json
import BinlogCursor.Cursor.Lemmas
import BinlogCursor.Interval.Json
import BinlogCursor.Main
import BinlogCursor.Origin.Json
import BinlogCursor.Place.Json
import BinlogCursor.Snapshot.Session
import BinlogCursor.Writer.Clock
import BinlogCursor.Proofs.CatchingUp
import BinlogCursor.Proofs.CheckpointText
import BinlogCursor.Proofs.ComparisonDuality
import BinlogCursor.Proofs.ComparisonOrder
import BinlogCursor.Proofs.Following
import BinlogCursor.Proofs.GtidInclusion
import BinlogCursor.Proofs.GtidOrder
import BinlogCursor.Proofs.GtidText
import BinlogCursor.Proofs.History
import BinlogCursor.Proofs.Log
import BinlogCursor.Proofs.Monotonicity
import BinlogCursor.Proofs.Operations
import BinlogCursor.Proofs.PlaceOrder
import BinlogCursor.Proofs.Publishing
import BinlogCursor.Proofs.Reader
import BinlogCursor.Proofs.Restart
import BinlogCursor.Proofs.Resumption
import BinlogCursor.Proofs.Station
import BinlogCursor.Proofs.Storing
import BinlogCursor.Proofs.Announcement
import BinlogCursor.Proofs.OpenTransaction
import BinlogCursor.Proofs.EventBoundary
import BinlogCursor.Proofs.InterruptedTransaction
import BinlogCursor.Proofs.JsonText
import BinlogCursor.Proofs.PositionJson
import BinlogCursor.Proofs.SplitReplay
import BinlogCursor.Proofs.GtidMeaning
import BinlogCursor.Proofs.GtidNormalText
import BinlogCursor.Proofs.PositionRoundTrip
import BinlogCursor.Proofs.CursorCheckpoint
import BinlogCursor.Proofs.NumberOrder
import BinlogCursor.Proofs.Recovery
import BinlogCursor.Proofs.Suspension
import BinlogCursor.Proofs.IntervalSearch
import BinlogCursor.Proofs.FilteredOrder
import BinlogCursor.Proofs.Refusal
import BinlogCursor.Proofs.Pattern.Apart
import BinlogCursor.Proofs.Pattern.Number
import BinlogCursor.Proofs.Pattern.Escape
import BinlogCursor.Proofs.Pattern.Group
import BinlogCursor.Proofs.Pattern.Spans
import BinlogCursor.Proofs.Pattern.Bracket
import BinlogCursor.Proofs.Pattern.Reading
import BinlogCursor.Proofs.Pattern.Enclosed
import BinlogCursor.Proofs.WholeNames
import BinlogCursor.Proofs.PositionSpelling
import BinlogCursor.Proofs.RowRecord
