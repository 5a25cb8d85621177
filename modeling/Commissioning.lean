import Commissioning.Api.Authority
import Commissioning.Api.HostName
import Commissioning.Api.HostName.Characters
import Commissioning.Api.HostName.Punycode
import Commissioning.Api.Request
import Commissioning.Api.Response
import Commissioning.Api.Route
import Commissioning.Api.Server
import Commissioning.Api.Target
import Commissioning.Assistant.Basic
import Commissioning.Assistant.Inquiry
import Commissioning.Assistant.Submission
import Commissioning.Assistant.Wizard
import Commissioning.Assoc
import Commissioning.Field.Basic
import Commissioning.Field.Pattern
import Commissioning.Field.Step
import Commissioning.Gateway.Address
import Commissioning.Gateway.Basic
import Commissioning.Gateway.Host
import Commissioning.Installation.Basic
import Commissioning.Installation.Battery
import Commissioning.Installation.Choice
import Commissioning.Installation.Contact
import Commissioning.Installation.Edge
import Commissioning.Installation.Grid
import Commissioning.Installation.Photovoltaics
import Commissioning.Intake.Basic
import Commissioning.Intake.Issue
import Commissioning.Intake.Numeral
import Commissioning.Json.Basic
import Commissioning.Json.Display
import Commissioning.Json.Height
import Commissioning.Json.Merge
import Commissioning.Json.Reader
import Commissioning.Json.Stored
import Commissioning.Json.Writer
import Commissioning.Live.Defaults
import Commissioning.Live.Feed
import Commissioning.Live.Payload
import Commissioning.Live.Prepared
import Commissioning.Live.Template
import Commissioning.Live.Template.Description
import Commissioning.Live.Template.Kind
import Commissioning.Live.Template.Layout
import Commissioning.Live.Template.Scale
import Commissioning.Live.Template.Scan
import Commissioning.Live.Template.Value
import Commissioning.Live.Template.Whole
import Commissioning.Number.Basic
import Commissioning.Number.Binary64
import Commissioning.Number.Conversion
import Commissioning.Number.Numeral
import Commissioning.Number.Shortest
import Commissioning.Number.Written
import Commissioning.Proofs.Assistant.Atomic
import Commissioning.Proofs.Assistant.Calls
import Commissioning.Proofs.Assistant.Closing
import Commissioning.Proofs.Assistant.Confined
import Commissioning.Proofs.Assistant.Faithful
import Commissioning.Proofs.Assistant.Form
import Commissioning.Proofs.Assistant.Frame
import Commissioning.Proofs.Assistant.History
import Commissioning.Proofs.Assistant.Isolation
import Commissioning.Proofs.Assistant.Leaving
import Commissioning.Proofs.Assistant.Ledger
import Commissioning.Proofs.Assistant.Meanwhile
import Commissioning.Proofs.Assistant.Operation
import Commissioning.Proofs.Assistant.Patching
import Commissioning.Proofs.Assistant.Proposals
import Commissioning.Proofs.Assistant.Remembered
import Commissioning.Proofs.Assistant.Submitting
import Commissioning.Proofs.Assistant.Traffic
import Commissioning.Proofs.Assoc
import Commissioning.Proofs.Field.Check
import Commissioning.Proofs.Field.Kept
import Commissioning.Proofs.Field.Pattern
import Commissioning.Proofs.Gateway.Answer
import Commissioning.Proofs.Installation.Document
import Commissioning.Proofs.Installation.Guarded
import Commissioning.Proofs.Installation.Paths
import Commissioning.Proofs.Installation.RoundTrip
import Commissioning.Proofs.Installation.Writable
import Commissioning.Proofs.Json.Excess
import Commissioning.Proofs.Json.Numeral
import Commissioning.Proofs.Json.Reading
import Commissioning.Proofs.Json.RoundTrip
import Commissioning.Proofs.Json.Steps
import Commissioning.Proofs.Json.StoredRoundTrip
import Commissioning.Proofs.Json.StoredWhole
import Commissioning.Proofs.Json.Text
import Commissioning.Proofs.Live.Bookkeeping
import Commissioning.Proofs.Live.Course
import Commissioning.Proofs.Live.Leftover
import Commissioning.Proofs.Live.Overlap
import Commissioning.Proofs.Live.Received
import Commissioning.Proofs.Live.Samples
import Commissioning.Proofs.Live.Waiting
import Commissioning.Proofs.Number.Digits
import Commissioning.Proofs.Number.Rounding
import Commissioning.Proofs.Number.Typed
import Commissioning.Proofs.Protocol.Assembly
import Commissioning.Proofs.Protocol.Content
import Commissioning.Proofs.Protocol.Filled
import Commissioning.Proofs.SerialNumber.Collect
import Commissioning.Proofs.SerialNumber.Counts
import Commissioning.Proofs.SerialNumber.Kept
import Commissioning.Proofs.SerialNumber.WellFormed
import Commissioning.Proofs.Session.Course
import Commissioning.Proofs.Session.Loading
import Commissioning.Proofs.Session.Navigator
import Commissioning.Proofs.Session.Refinement
import Commissioning.Proofs.Session.Repair
import Commissioning.Proofs.Session.RoundTrip
import Commissioning.Proofs.StorageSystem.NamedStrings
import Commissioning.Proofs.StorageSystem.Properties
import Commissioning.Proofs.Text.Utf8
import Commissioning.Protocol.Assembly
import Commissioning.Protocol.Basic
import Commissioning.Protocol.Intake
import Commissioning.SerialNumber.Collect
import Commissioning.SerialNumber.Schema
import Commissioning.Session.Basic
import Commissioning.Session.Codec
import Commissioning.Session.Navigator
import Commissioning.Session.Store
import Commissioning.Settings
import Commissioning.StorageSystem.Basic
import Commissioning.StorageSystem.Payload
import Commissioning.StorageSystem.View
import Commissioning.Text.Blank
import Commissioning.Text.Capital
import Commissioning.Text.DecimalDigit
import Commissioning.Text.Encoding
import Commissioning.Text.Hexadecimal
import Commissioning.Text.Percent
import Commissioning.Text.Printable
import Commissioning.Text.Quoted
import Commissioning.Text.Split
import Commissioning.Text.Torn
import Commissioning.Text.Utf8
