import IssueMerge.Disk.Memory
import IssueMerge.Disk.Unreliable
import IssueMerge.Main
import IssueMerge.Proofs.Text.Lines
import IssueMerge.Proofs.Text.Utf8
import IssueMerge.Proofs.Json.Fields
import IssueMerge.Proofs.Json.Shape
import IssueMerge.Proofs.Json.Scalar
import IssueMerge.Proofs.Json.Quote
import IssueMerge.Proofs.Json.Decimal
import IssueMerge.Proofs.Json.RoundTrip
import IssueMerge.Proofs.Json.OneLine
import IssueMerge.Proofs.Json.LongNumeral
import IssueMerge.Proofs.Record.RoundTrip
import IssueMerge.Proofs.Conflict.Legible
import IssueMerge.Proofs.Conflict.Layout
import IssueMerge.Proofs.Conflict.Scan
import IssueMerge.Proofs.Conflict.Division
import IssueMerge.Proofs.Conflict.Position
import IssueMerge.Proofs.Conflict.Discarded
import IssueMerge.Proofs.Conflict.Examined
import IssueMerge.Proofs.Rebuild.Kept
import IssueMerge.Proofs.Rebuild.Walk
import IssueMerge.Proofs.Rebuild.Run
import IssueMerge.Proofs.Resolution.Assigned
import IssueMerge.Proofs.Resolution.Policy
import IssueMerge.Proofs.Rebuild.Lockstep
import IssueMerge.Proofs.Rebuild.Emitted
import IssueMerge.Proofs.Rebuild.Records
import IssueMerge.Proofs.Rebuild.Lines
import IssueMerge.Proofs.Rebuild.Reread
import IssueMerge.Proofs.Rebuild.Stretches
import IssueMerge.Proofs.Rebuild.Markers
import IssueMerge.Proofs.Rebuild.Discarded
import IssueMerge.Proofs.Disk.Memory
import IssueMerge.Proofs.Disk.Follows
import IssueMerge.Proofs.Store.Written
import IssueMerge.Proofs.Merge.Rebuilt
import IssueMerge.Proofs.Merge.Resolved
import IssueMerge.Proofs.Merge.Records
import IssueMerge.Proofs.Merge.References
import IssueMerge.Proofs.Merge.Targets
import IssueMerge.Proofs.Merge.Captured
import IssueMerge.Proofs.Merge.Heads
import IssueMerge.Proofs.Merge.Run
import IssueMerge.Proofs.Merge.Atomic
import IssueMerge.Proofs.Merge.Stable
import IssueMerge.Proofs.Merge.InPlace
import IssueMerge.Proofs.Reference.Pieces
import IssueMerge.Proofs.Reference.Mentions
import IssueMerge.Proofs.Reference.Exposed
import IssueMerge.Proofs.Record.Schema
import IssueMerge.Proofs.Record.TextChange
import IssueMerge.Proofs.Issue.Inverse
import IssueMerge.Proofs.Resolution.Counted
import IssueMerge.Proofs.Merge.Consecutive
import IssueMerge.Proofs.Merge.ReadBack
import IssueMerge.Proofs.Resolution.Asked
import IssueMerge.Proofs.Resolution.Turns
import IssueMerge.Proofs.Disk.Entry
import IssueMerge.Proofs.Project.Inside
