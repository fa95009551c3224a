import GridWalk.Arena
import GridWalk.Arena.Drive
import GridWalk.Cell
import GridWalk.Cli.Folder
import GridWalk.Cli.Options
import GridWalk.Cli.Session
import GridWalk.Command
import GridWalk.Document
import GridWalk.Document.Check
import GridWalk.Document.Reader
import GridWalk.Fault
import GridWalk.Grid
import GridWalk.Heading
import GridWalk.Journey
import GridWalk.Log
import GridWalk.Main
import GridWalk.Observer
import GridWalk.Observer.Logging
import GridWalk.Observer.Picture
import GridWalk.Observer.Recorder
import GridWalk.Observer.Trace
import GridWalk.Outcome
import GridWalk.ParseError
import GridWalk.Plot
import GridWalk.Plot.Point
import GridWalk.Pose
import GridWalk.Proofs.Acceptance
import GridWalk.Proofs.Announcements
import GridWalk.Proofs.Grammar
import GridWalk.Proofs.IdealPath
import GridWalk.Proofs.Membership
import GridWalk.Proofs.RunShapes
import GridWalk.Proofs.Scan.Inside
import GridWalk.Proofs.Scan.Recognition
import GridWalk.Proofs.Text.Numeral
import GridWalk.Proofs.Violations
import GridWalk.Report
import GridWalk.Run
import GridWalk.Scan.Cursor
import GridWalk.Scan.Progress
import GridWalk.Scan.Rule
import GridWalk.Text.Blank
import GridWalk.Text.DecimalDigit
import GridWalk.Text.Json
import GridWalk.Text.Lines
import GridWalk.Text.Numeral
import GridWalk.Text.Offset
import GridWalk.Text.Position
import GridWalk.Text.Printable
import GridWalk.Text.Quoted
import GridWalk.Text.Ranges
import GridWalk.Text.Utf8
import GridWalk.Value
import GridWalk.Violation
import GridWalk.Proofs.Scan.Complaint
import GridWalk.Proofs.Text.Position
import GridWalk.Proofs.Text.Returns
import GridWalk.Proofs.Grammar.Row
import GridWalk.Proofs.Refusal
import GridWalk.Proofs.Grammar.Local
import GridWalk.Proofs.ViablePrefix
import GridWalk.Proofs.Finality
import GridWalk.Proofs.RoundTrip
import GridWalk.Proofs.Careful.Reader
import GridWalk.Proofs.Careful.Drive
import GridWalk.Proofs.Careful.Watcher
import GridWalk.Proofs.Faultless
import GridWalk.Proofs.LineEnds
import GridWalk.Proofs.Concatenation
import GridWalk.Proofs.Trajectories
import GridWalk.Proofs.WayBack
import GridWalk.Proofs.Symmetries
import GridWalk.Proofs.Shrinking
import GridWalk.Proofs.Lockstep
import GridWalk.Proofs.Relisting
import GridWalk.Proofs.Accounts
import GridWalk.Proofs.Extent
import GridWalk.Proofs.PictureTrace
import GridWalk.Proofs.Text.Plain
import GridWalk.Proofs.OutputLines
import GridWalk.Proofs.Text.Utf8
import GridWalk.Proofs.Cli.Arguments
import GridWalk.Proofs.CommandLine
import GridWalk.Proofs.Cli.LostLevel
import GridWalk.Proofs.NumberReading
import GridWalk.Proofs.StraightDrive
import GridWalk.Proofs.TruthfulErrors
import GridWalk.Proofs.Drawings
import GridWalk.Proofs.Splitting
import GridWalk.Proofs.CommandCounts
import GridWalk.Proofs.Picture.Lines
import GridWalk.Proofs.Picture.Sights
import GridWalk.Proofs.Picture.Alignment
import GridWalk.Proofs.Addresses
import GridWalk.Proofs.Text.Fields
import GridWalk.Proofs.OutcomeLines
import GridWalk.Proofs.Descriptions
import GridWalk.Proofs.Reports
import GridWalk.Proofs.Titles
import GridWalk.Proofs.Transcripts
import GridWalk.Proofs.Scan.Reading
import GridWalk.Proofs.ForwardReading
import GridWalk.Proofs.TextBefore
