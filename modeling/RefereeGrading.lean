import RefereeGrading.Command
import RefereeGrading.Event
import RefereeGrading.Judgement
import RefereeGrading.Alignment
import RefereeGrading.Decimal.Binary
import RefereeGrading.Decimal.Fixed
import RefereeGrading.Decimal.Shortest
import RefereeGrading.Text.Blank
import RefereeGrading.Text.Digits
import RefereeGrading.Text.Integer
import RefereeGrading.Text.Printable
import RefereeGrading.Text.Quoted
import RefereeGrading.Text.Utf8
import RefereeGrading.Text.FileName
import RefereeGrading.Score
import RefereeGrading.Workspace
import RefereeGrading.Sheet
import RefereeGrading.Protobuf
import RefereeGrading.Codec
import RefereeGrading.Wire.Varint
import RefereeGrading.Wire.Scan
import RefereeGrading.Wire.Proto2
import RefereeGrading.Log
import RefereeGrading.LogLevel
import RefereeGrading.Settings
import RefereeGrading.OptionWords
import RefereeGrading.Settings.Constructor
import RefereeGrading.EnvFile
import RefereeGrading.Ingest
import RefereeGrading.Json
import RefereeGrading.Report
import RefereeGrading.Grading
import RefereeGrading.CommandLine
import RefereeGrading.Playback
import RefereeGrading.Capture
import RefereeGrading.Main
import RefereeGrading.Proofs.Alignment
import RefereeGrading.Proofs.Sheet
import RefereeGrading.Proofs.Folder
import RefereeGrading.Proofs.Ingest
import RefereeGrading.Proofs.Rerun
import RefereeGrading.Proofs.Framing
import RefereeGrading.Proofs.Discovery
import RefereeGrading.Proofs.Redelivery
import RefereeGrading.Proofs.Merge
import RefereeGrading.Proofs.Scoring
import RefereeGrading.Proofs.Sources
import RefereeGrading.Proofs.Outcome
import RefereeGrading.Proofs.Matching
import RefereeGrading.Proofs.Proto2
import RefereeGrading.Proofs.Codec
import RefereeGrading.Proofs.Interleaving
import RefereeGrading.Proofs.Accounting
import RefereeGrading.Proofs.Acceptance
import RefereeGrading.Proofs.Events
import RefereeGrading.Proofs.Ratios
import RefereeGrading.Proofs.CommandGroups
import RefereeGrading.Proofs.Replay
import RefereeGrading.Proofs.Listening
