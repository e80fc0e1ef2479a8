import SlabWaste.Command
import SlabWaste.CommandLine.Argument
import SlabWaste.CommandLine.Options
import SlabWaste.Diagnostics
import SlabWaste.Event.CallSite
import SlabWaste.Event.Kind
import SlabWaste.Event.Record
import SlabWaste.Fault
import SlabWaste.Files
import SlabWaste.Main
import SlabWaste.Note
import SlabWaste.Number.Binary64
import SlabWaste.Number.Circle
import SlabWaste.Number.Decimal
import SlabWaste.Number.Numeral
import SlabWaste.Proofs.Command.Endings
import SlabWaste.Proofs.Command.Output
import SlabWaste.Proofs.Command.SideOutputs
import SlabWaste.Proofs.Command.Warning
import SlabWaste.Proofs.CommandLine.Characters
import SlabWaste.Proofs.CommandLine.Groups
import SlabWaste.Proofs.Event.Accepting
import SlabWaste.Proofs.Event.Reading
import SlabWaste.Proofs.Files.Paths
import SlabWaste.Proofs.Number.Exact
import SlabWaste.Proofs.Number.Order
import SlabWaste.Proofs.Number.Printed
import SlabWaste.Proofs.Number.Rounding
import SlabWaste.Proofs.Number.Spelling
import SlabWaste.Proofs.Report.Page
import SlabWaste.Proofs.Report.Printing
import SlabWaste.Proofs.Report.Ranking
import SlabWaste.Proofs.Report.Reading
import SlabWaste.Proofs.Report.Sheet
import SlabWaste.Proofs.Ring.Partition
import SlabWaste.Proofs.Ring.Units
import SlabWaste.Proofs.Symbols.Answers
import SlabWaste.Proofs.Symbols.Checked
import SlabWaste.Proofs.Symbols.Listing
import SlabWaste.Proofs.Symbols.Requests
import SlabWaste.Proofs.Symbols.Search
import SlabWaste.Proofs.Tally.Balance
import SlabWaste.Proofs.Tally.Counting
import SlabWaste.Proofs.Tally.Filtering
import SlabWaste.Proofs.Tally.History
import SlabWaste.Proofs.Tally.Joining
import SlabWaste.Proofs.Tally.Naming
import SlabWaste.Proofs.Tally.Peak
import SlabWaste.Proofs.Tally.Pipeline
import SlabWaste.Proofs.Tally.Process
import SlabWaste.Proofs.Tally.Renewing
import SlabWaste.Proofs.Tally.Reordering
import SlabWaste.Proofs.Tally.Requests
import SlabWaste.Proofs.Tally.Safety
import SlabWaste.Proofs.Tally.Settling
import SlabWaste.Proofs.Tally.Swapping
import SlabWaste.Proofs.Tally.Totals
import SlabWaste.Proofs.Tally.Waste
import SlabWaste.Proofs.Text.Decoding
import SlabWaste.Proofs.Text.Encoding
import SlabWaste.Proofs.Text.Joining
import SlabWaste.Proofs.Text.Words
import SlabWaste.Proofs.Trace.Clock
import SlabWaste.Proofs.Trace.Grammar
import SlabWaste.Proofs.Trace.Joining
import SlabWaste.Proofs.Trace.Keeping
import SlabWaste.Proofs.Trace.Layout
import SlabWaste.Proofs.Trace.Losses
import SlabWaste.Proofs.Trace.Merge
import SlabWaste.Proofs.Trace.Progress
import SlabWaste.Proofs.Trace.Reached
import SlabWaste.Proofs.Trace.Refusal
import SlabWaste.Proofs.Trace.Script
import SlabWaste.Proofs.Trace.Shelving
import SlabWaste.Proofs.Trace.Stopping
import SlabWaste.Proofs.Trace.Timeline
import SlabWaste.Report.Account
import SlabWaste.Report.Table
import SlabWaste.Report.Written
import SlabWaste.Ring.Colour
import SlabWaste.Ring.Drawing
import SlabWaste.Ring.Listing
import SlabWaste.Ring.Plotter
import SlabWaste.Ring.Section
import SlabWaste.Ring.Size
import SlabWaste.Symbols.Load
import SlabWaste.Symbols.Memo
import SlabWaste.Symbols.Table
import SlabWaste.Tally.Heap
import SlabWaste.Tally.Run
import SlabWaste.Tally.Session
import SlabWaste.Tally.Usage
import SlabWaste.Text.Blank
import SlabWaste.Text.Digit
import SlabWaste.Text.Lines
import SlabWaste.Text.Quoted
import SlabWaste.Text.Scan
import SlabWaste.Text.Utf8
import SlabWaste.Text.Word
import SlabWaste.Trace.Line
import SlabWaste.Trace.Order
import SlabWaste.Trace.Reader
