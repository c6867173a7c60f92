import BrokerWire.Code.Inbound
import BrokerWire.Code.Numbered
import BrokerWire.Code.Numbers
import BrokerWire.Code.Outbound
import BrokerWire.Code.TickType
import BrokerWire.Code.Vocabulary
import BrokerWire.Code.Words
import BrokerWire.Event.Account
import BrokerWire.Event.Basic
import BrokerWire.Event.ClientError
import BrokerWire.Event.Contract
import BrokerWire.Event.Decode
import BrokerWire.Event.Execution
import BrokerWire.Event.History
import BrokerWire.Event.Market
import BrokerWire.Event.Notice
import BrokerWire.Event.Order
import BrokerWire.Event.OrderParts
import BrokerWire.Event.Service
import BrokerWire.Form.Account
import BrokerWire.Form.Basic
import BrokerWire.Form.Common
import BrokerWire.Form.Condition
import BrokerWire.Form.Contract
import BrokerWire.Form.Execution
import BrokerWire.Form.MarketData
import BrokerWire.Form.Notice
import BrokerWire.Form.Order
import BrokerWire.Form.OrderState
import BrokerWire.Json.Basic
import BrokerWire.Json.Reader
import BrokerWire.Json.Text
import BrokerWire.Main
import BrokerWire.Number.Decimal.Basic
import BrokerWire.Number.Decimal.Reader
import BrokerWire.Number.Double.Basic
import BrokerWire.Number.Double.Reader
import BrokerWire.Number.Double.Shortest
import BrokerWire.Number.Double.Stepwise
import BrokerWire.Number.Double.Text
import BrokerWire.Number.Integer
import BrokerWire.Proofs.Code.Lawful
import BrokerWire.Proofs.Event.BondDetails
import BrokerWire.Proofs.Event.CompletedOrder
import BrokerWire.Proofs.Event.ContractDetails
import BrokerWire.Proofs.Event.Countless
import BrokerWire.Proofs.Event.Dispatch
import BrokerWire.Proofs.Event.Elements
import BrokerWire.Proofs.Event.Expiry
import BrokerWire.Proofs.Event.Layout
import BrokerWire.Proofs.Event.MessageVersions
import BrokerWire.Proofs.Event.Notices
import BrokerWire.Proofs.Event.OpenOrder
import BrokerWire.Proofs.Event.OrderGroups
import BrokerWire.Proofs.Event.OrderMessages
import BrokerWire.Proofs.Event.Truncation
import BrokerWire.Proofs.Form.Settling
import BrokerWire.Proofs.Number.Decimal
import BrokerWire.Proofs.Number.Double.Nearest
import BrokerWire.Proofs.Number.Double.Shortest
import BrokerWire.Proofs.Number.Double.Text
import BrokerWire.Proofs.Number.Integer
import BrokerWire.Proofs.Number.Spelling
import BrokerWire.Proofs.Report.Connecting
import BrokerWire.Proofs.Report.Course
import BrokerWire.Proofs.Report.Finishing
import BrokerWire.Proofs.Report.Following
import BrokerWire.Proofs.Report.Output
import BrokerWire.Proofs.Report.Runner
import BrokerWire.Proofs.Request.Admission
import BrokerWire.Proofs.Request.Conditions
import BrokerWire.Proofs.Request.OrderLayout
import BrokerWire.Proofs.Request.Parameters
import BrokerWire.Proofs.Request.Placement
import BrokerWire.Proofs.Request.Readback
import BrokerWire.Proofs.Request.Unambiguous
import BrokerWire.Proofs.Session.Accounting
import BrokerWire.Proofs.Session.Acknowledgement
import BrokerWire.Proofs.Session.Closing
import BrokerWire.Proofs.Session.Conversation
import BrokerWire.Proofs.Session.Counting
import BrokerWire.Proofs.Session.CutOff
import BrokerWire.Proofs.Session.Delivery
import BrokerWire.Proofs.Session.Interleaving
import BrokerWire.Proofs.Session.Issuing
import BrokerWire.Proofs.Session.Keeping
import BrokerWire.Proofs.Session.Line
import BrokerWire.Proofs.Session.Opening
import BrokerWire.Proofs.Session.Reachable
import BrokerWire.Proofs.Session.Sending
import BrokerWire.Proofs.Session.Starting
import BrokerWire.Proofs.Session.Traffic
import BrokerWire.Proofs.Session.Transcript
import BrokerWire.Proofs.Session.Unhandled
import BrokerWire.Proofs.Session.Verdict
import BrokerWire.Proofs.Session.Views
import BrokerWire.Proofs.Text.EscapeGrammar
import BrokerWire.Proofs.Text.EscapeRoundTrip
import BrokerWire.Proofs.Text.Utf8
import BrokerWire.Proofs.Wire.Answers
import BrokerWire.Proofs.Wire.Begins
import BrokerWire.Proofs.Wire.Cursor
import BrokerWire.Proofs.Wire.Delimiting
import BrokerWire.Proofs.Wire.Framing
import BrokerWire.Proofs.Wire.Layout
import BrokerWire.Proofs.Wire.Position
import BrokerWire.Proofs.Wire.Separation
import BrokerWire.Proofs.Wire.Typed
import BrokerWire.Proofs.Wire.Unset
import BrokerWire.Proofs.Wire.Value
import BrokerWire.Record.Account
import BrokerWire.Record.Common
import BrokerWire.Record.Condition
import BrokerWire.Record.Contract
import BrokerWire.Record.Execution
import BrokerWire.Record.MarketData
import BrokerWire.Record.Order
import BrokerWire.Record.OrderState
import BrokerWire.Report.Record
import BrokerWire.Report.Run
import BrokerWire.Report.Settings
import BrokerWire.Request.Basic
import BrokerWire.Request.Message
import BrokerWire.Request.Needs
import BrokerWire.Request.OrderFields
import BrokerWire.Session.ApiError
import BrokerWire.Session.Client
import BrokerWire.Session.Counters
import BrokerWire.Session.Handshake
import BrokerWire.Session.Inbox
import BrokerWire.Session.Outbox
import BrokerWire.Session.Scenario
import BrokerWire.Text.Blank
import BrokerWire.Text.Escape
import BrokerWire.Text.Utf8
import BrokerWire.Wire.Fault
import BrokerWire.Wire.Field
import BrokerWire.Wire.FieldReader
import BrokerWire.Wire.Frame
import BrokerWire.Wire.Message
import BrokerWire.Wire.Value
import BrokerWire.Wire.Version
