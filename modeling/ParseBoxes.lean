import ParseBoxes.Main
import ParseBoxes.Session.Canvas
import ParseBoxes.Proofs.Tree.Links
import ParseBoxes.Proofs.Tree.Built
import ParseBoxes.Proofs.Layout.Depends
import ParseBoxes.Proofs.Layout.Remembered
import ParseBoxes.Proofs.Run
import ParseBoxes.Proofs.Animation.Pinning
import ParseBoxes.Proofs.Animation.Frames
import ParseBoxes.Proofs.Animation.Stage
import ParseBoxes.Proofs.Animation.Steady
import ParseBoxes.Proofs.Animation.Easing
import ParseBoxes.Proofs.Session.History
import ParseBoxes.Proofs.Session.Sound
import ParseBoxes.Proofs.Session.Runs
import ParseBoxes.Proofs.Session.Following
import ParseBoxes.Proofs.Session.Confluence
import ParseBoxes.Proofs.Session.Timeline
import ParseBoxes.Proofs.Session.LeastWidth
import ParseBoxes.Proofs.Tree.Attempts
import ParseBoxes.Proofs.Tree.Declared
import ParseBoxes.Proofs.Animation.Splitting
import ParseBoxes.Proofs.Session.FrameRate
import ParseBoxes.Proofs.Tree.Nesting
import ParseBoxes.Proofs.Layout.Placing
import ParseBoxes.Proofs.Layout.Ribbon
import ParseBoxes.Proofs.Session.Beneath
import ParseBoxes.Proofs.Tree.Homes
import ParseBoxes.Proofs.Layout.Flush
import ParseBoxes.Proofs.Session.Flush
import ParseBoxes.Proofs.Session.InStep
import ParseBoxes.Proofs.Layout.Sparing
import ParseBoxes.Proofs.Session.Refusals
import ParseBoxes.Proofs.Measure.Recency
import ParseBoxes.Proofs.Tree.Text
import ParseBoxes.Proofs.Session.Basis
import ParseBoxes.Proofs.Session.Forgetting
import ParseBoxes.Proofs.Layout.Agreement
import ParseBoxes.Proofs.Animation.Alone
import ParseBoxes.Proofs.Session.Arrival
import ParseBoxes.Proofs.Json.Spelling
import ParseBoxes.Proofs.Json.Writing
import ParseBoxes.Proofs.Trace.RoundTrip
import ParseBoxes.Proofs.Animation.Batching
import ParseBoxes.Proofs.Layout.Dependents
import ParseBoxes.Proofs.Animation.Continuity
import ParseBoxes.Proofs.Session.Commuting
import ParseBoxes.Proofs.Layout.Freed
import ParseBoxes.Proofs.Layout.Listing
import ParseBoxes.Proofs.Session.Listing
import ParseBoxes.Proofs.Layout.Containment
import ParseBoxes.Proofs.Session.Containment
import ParseBoxes.Proofs.Layout.Pointing
import ParseBoxes.Proofs.Session.Pointing
import ParseBoxes.Proofs.Animation.Course
import ParseBoxes.Proofs.Session.Settling
import ParseBoxes.Proofs.Tree.Paths
import ParseBoxes.Proofs.Tree.Calls
import ParseBoxes.Proofs.Layout.Shrinking
import ParseBoxes.Proofs.Session.Shrinking
import ParseBoxes.Proofs.Session.Highlighting
import ParseBoxes.Proofs.Command.Paths
import ParseBoxes.Proofs.Command.Replaying
import ParseBoxes.Proofs.Command.Mistakes
import ParseBoxes.Proofs.Report.Lines
import ParseBoxes.Proofs.Report.Rows
import ParseBoxes.Proofs.Command.Printing
