import Fingerprint.Detection.Display
import Fingerprint.Detection.Shared
import Fingerprint.Json.Printer
import Fingerprint.Proofs.Evidence
import Fingerprint.Proofs.Isolation
import Fingerprint.Proofs.Pipeline
import Fingerprint.Proofs.Text
import Fingerprint.Script.Engine
import Fingerprint.Transaction.Archive
import Fingerprint.Transaction.HeaderMap
import Fingerprint.Validation.Basic
import Fingerprint.Proofs.Admission
import Fingerprint.Proofs.ScriptAddition
import Fingerprint.Proofs.MessagePackRoundTrip
import Fingerprint.Proofs.PluginDocument
import Fingerprint.Proofs.CatalogCache
import Fingerprint.Proofs.Conformance
import Fingerprint.Proofs.Noninterference
import Fingerprint.Proofs.ScriptExamples
import Fingerprint.Proofs.FailedSetup
import Fingerprint.Proofs.Provenance
import Fingerprint.Proofs.Precedence
import Fingerprint.Proofs.Growth
import Fingerprint.Proofs.ProbeRun
import Fingerprint.Proofs.ProbeOutcome
import Fingerprint.Proofs.Conversion
import Fingerprint.Proofs.ScriptBytes
import Fingerprint.Proofs.WriteOnce
import Fingerprint.Proofs.StableLoading
import Fingerprint.Proofs.RefusedInstall
import Fingerprint.Proofs.Completion
import Fingerprint.Proofs.HeaderName
import Fingerprint.Proofs.LiveMatchers
import Fingerprint.Proofs.MissingFields
import Fingerprint.Proofs.HeaderOrder
import Fingerprint.Proofs.ResourcePath
import Fingerprint.Proofs.TextElements
import Fingerprint.Proofs.Directory
import Fingerprint.Proofs.Validation
import Fingerprint.Proofs.Archive
import Fingerprint.Proofs.Settings
import Fingerprint.Proofs.JsonRoundTrip
import Fingerprint.Proofs.ReceivedHeaders
