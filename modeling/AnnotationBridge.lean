import AnnotationBridge.Main
import AnnotationBridge.Proofs.Currency
import AnnotationBridge.Proofs.Annotator
import AnnotationBridge.Proofs.Workflow
import AnnotationBridge.Proofs.Reachable
import AnnotationBridge.Proofs.PassOrder
import AnnotationBridge.Proofs.Freshness
import AnnotationBridge.Proofs.Convergence
import AnnotationBridge.Proofs.Exchange
import AnnotationBridge.Proofs.Waiting
import AnnotationBridge.Proofs.Resolve
import AnnotationBridge.Proofs.Session
import AnnotationBridge.Proofs.Traffic
import AnnotationBridge.Proofs.Pending
import AnnotationBridge.Proofs.Deadline
import AnnotationBridge.Proofs.Refusal
import AnnotationBridge.Proofs.MarkerHistory
import AnnotationBridge.Proofs.Finality
import AnnotationBridge.Proofs.OpenDocuments
import AnnotationBridge.Proofs.Announcement
import AnnotationBridge.Proofs.Ascending
import AnnotationBridge.Proofs.Registry
import AnnotationBridge.Proofs.Lines
import AnnotationBridge.Proofs.LineView
import AnnotationBridge.Proofs.Editing
import AnnotationBridge.Proofs.Utf16
import AnnotationBridge.Proofs.Utf16RoundTrip
import AnnotationBridge.Proofs.Tokens
import AnnotationBridge.Proofs.Binding
import AnnotationBridge.Proofs.Publish
import AnnotationBridge.Proofs.Release
import AnnotationBridge.Proofs.EventLoop
import AnnotationBridge.Proofs.Showing
import AnnotationBridge.Proofs.Interference
import AnnotationBridge.Proofs.Agreement
import AnnotationBridge.Proofs.Containment
import AnnotationBridge.Proofs.Ascii
import AnnotationBridge.Proofs.EscapedSeparators
import AnnotationBridge.Proofs.FileUri
import AnnotationBridge.Proofs.RelativePath
import AnnotationBridge.Proofs.Addressable
import AnnotationBridge.Proofs.Utf8
import AnnotationBridge.Proofs.Extension
import AnnotationBridge.Proofs.EscapedName
import AnnotationBridge.Proofs.DocumentLanguage
import AnnotationBridge.Proofs.Script
import AnnotationBridge.Proofs.FirstMatch
import AnnotationBridge.Proofs.Latency
import AnnotationBridge.Proofs.Report
import AnnotationBridge.Proofs.UnscriptedReport
import AnnotationBridge.EventBus
import AnnotationBridge.Proofs.Delivery
import AnnotationBridge.Proofs.UiTasks
import AnnotationBridge.Proofs.UiDrain
import AnnotationBridge.Proofs.BufferCalls
import AnnotationBridge.Proofs.ConfigText
import AnnotationBridge.Proofs.ShortestDecimal
import AnnotationBridge.Proofs.NumberText
import AnnotationBridge.Proofs.JsonValues
import AnnotationBridge.Proofs.JsonTokens
import AnnotationBridge.Proofs.RereadNumber
import AnnotationBridge.Proofs.JsonText
import AnnotationBridge.Proofs.JsonCanonical
import AnnotationBridge.Proofs.JsonCodec
import AnnotationBridge.Proofs.DiagnosticCodec
import AnnotationBridge.Proofs.WorkspaceEditCodec
import AnnotationBridge.Proofs.ActionCodec
import AnnotationBridge.Proofs.DoubleRounding
import AnnotationBridge.Proofs.ScriptText
