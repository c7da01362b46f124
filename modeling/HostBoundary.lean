import HostBoundary.Payload.Crossing
import HostBoundary.Failure.Report
import HostBoundary.ItemType
import HostBoundary.Plugin
import HostBoundary.Session.Step
import HostBoundary.Text.TimeStamp
import HostBoundary.Text.Utf8.RoundTrip
import HostBoundary.Json.StringLiteral.RoundTrip
import HostBoundary.Proofs.Assoc
import HostBoundary.Proofs.Collected
import HostBoundary.Proofs.Json.Merging
import HostBoundary.Proofs.Json.Bracketed
import HostBoundary.Proofs.Json.RoundTrip
import HostBoundary.Proofs.Json.Local
import HostBoundary.Proofs.Json.Places
import HostBoundary.Proofs.Json.Around
import HostBoundary.Proofs.Payload.RoundTrip
import HostBoundary.Proofs.Payload.Injectivity
import HostBoundary.Proofs.Payload.Integers
import HostBoundary.Proofs.Failure.Unification
import HostBoundary.Proofs.Failure.Repetition
import HostBoundary.Proofs.Failure.Life
import HostBoundary.Proofs.Failure.Message
import HostBoundary.Proofs.Failure.Equality
import HostBoundary.Proofs.Files.Frame
import HostBoundary.Proofs.Files.Alike
import HostBoundary.Proofs.Files.Paths
import HostBoundary.Proofs.Session.Noninterference
import HostBoundary.Proofs.Session.Records
import HostBoundary.Proofs.Session.Steps
import HostBoundary.Proofs.Session.LogFile
import HostBoundary.Proofs.Session.FailedStart
import HostBoundary.Proofs.Session.AcceptedLog
import HostBoundary.Proofs.Session.Switch
import HostBoundary.Proofs.Session.Console
import HostBoundary.Proofs.ItemOrList
import HostBoundary.Proofs.Loader
import HostBoundary.Proofs.ItemType
import HostBoundary.Proofs.ItemRoutes
import HostBoundary.Proofs.Text.Indent
import HostBoundary.Proofs.Text.ByteOrder
import HostBoundary.Proofs.Advisory
import HostBoundary.Proofs.Payload.TextAndBytes
import HostBoundary.Proofs.Payload.Rejections
import HostBoundary.Proofs.Plugin
