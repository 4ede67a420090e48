import Inertial.Capabilities
import Inertial.Channel
import Inertial.Covariance
import Inertial.Decimal
import Inertial.Demo
import Inertial.Demo.JsonLines
import Inertial.Demo.Listing
import Inertial.Demo.Outcome
import Inertial.Demo.Spin
import Inertial.Double
import Inertial.Double.Fixed
import Inertial.Double.Shortest
import Inertial.Gateway
import Inertial.Gateway.LastError
import Inertial.Handle
import Inertial.Inspect
import Inertial.LogRecord
import Inertial.Main
import Inertial.Memory
import Inertial.NameMap
import Inertial.Quaternion
import Inertial.Reading
import Inertial.Registry
import Inertial.Sample
import Inertial.Session
import Inertial.Session.Command
import Inertial.Setting
import Inertial.Storage
import Inertial.Text.AttachedMark
import Inertial.Text.Blank
import Inertial.Text.CharClass
import Inertial.Text.DefaultIgnorable
import Inertial.Text.Outline
import Inertial.Text.Quoted
import Inertial.Text.Unprintable
import Inertial.Text.Utf8
import Inertial.Vector3
import Inertial.Proofs.Memory.Ledger
import Inertial.Proofs.NameTable
import Inertial.Proofs.Session.Chronicle
import Inertial.Proofs.Session.Following
import Inertial.Proofs.Registry.Operations
import Inertial.Proofs.Session.Steps
import Inertial.Proofs.Session.LiveReadings
import Inertial.Proofs.CapabilityBits
import Inertial.Proofs.NameOrder
import Inertial.Proofs.Registry.LastOperation
import Inertial.Proofs.Gateway.Operations
import Inertial.Proofs.Gateway.Counterpart
import Inertial.Proofs.Gateway.Mirroring
import Inertial.Proofs.Gateway.SameAnswers
import Inertial.Proofs.Text.FirstBytes
import Inertial.Proofs.Text.RoundTrip
import Inertial.Proofs.Text.ZeroBytes
import Inertial.Proofs.Gateway.ErrorProtocol
import Inertial.Proofs.Text.FaithfulDecoding
import Inertial.Proofs.Gateway.Effects
import Inertial.Proofs.Gateway.SharedNames
import Inertial.Proofs.Session.Provenance
import Inertial.Proofs.CapabilityAgreement
import Inertial.Proofs.Session.Effects
import Inertial.Proofs.Session.Isolation
import Inertial.Proofs.LogKinds
import Inertial.Proofs.Registry.AuditTrail
import Inertial.Proofs.Session.Reports
import Inertial.Proofs.AuditTrail
import Inertial.Proofs.Memory.Sharing
import Inertial.Proofs.Session.Sharing
import Inertial.Proofs.Text.Prefixes
import Inertial.Proofs.Text.WrittenDecimals
import Inertial.Proofs.Double.Rounding
import Inertial.Proofs.Demo.RoundedNumbers
import Inertial.Proofs.Json.Grammar
import Inertial.Proofs.Demo.JsonLines
import Inertial.Proofs.Double.Spacing
import Inertial.Proofs.Double.Rendering
import Inertial.Proofs.Text.Escaping
import Inertial.Proofs.Text.Layouts
import Inertial.Proofs.Text.Legibility
import Inertial.Proofs.Inspect.Legible
import Inertial.Proofs.Inspect.Unambiguous
import Inertial.Proofs.Quaternion.Product
import Inertial.Proofs.Quaternion.Rotation
import Inertial.Proofs.Quaternion.EulerAngles
import Inertial.Proofs.Quaternion.GimbalLock
import Inertial.Proofs.SampleEncoding
import Inertial.Proofs.Setting.Trimming
import Inertial.Proofs.Setting.Counts
import Inertial.Proofs.Setting.Normalizing
import Inertial.Proofs.CovarianceEntries
import Inertial.Proofs.Gateway.ErrorText
import Inertial.Proofs.Double.NumericalEquality
import Inertial.Proofs.SteadyReadings
import Inertial.Proofs.ReadingEquality
