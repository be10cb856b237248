import MobileStation.Area
import MobileStation.Cell
import MobileStation.Config
import MobileStation.Config.Document
import MobileStation.Connection
import MobileStation.Console.Command
import MobileStation.Console.Program
import MobileStation.Console.Session
import MobileStation.Element.Classmark
import MobileStation.Element.Error
import MobileStation.Element.Identity
import MobileStation.Element.NetworkName
import MobileStation.Element.Optional
import MobileStation.Log
import MobileStation.Mailbox
import MobileStation.Main
import MobileStation.Message.Body
import MobileStation.Message.Codec
import MobileStation.Message.Error
import MobileStation.Message.Header
import MobileStation.Message.Type
import MobileStation.Octets
import MobileStation.Primitive
import MobileStation.Proofs.Codec.Bodies
import MobileStation.Proofs.Codec.Canonical
import MobileStation.Proofs.Codec.Elements
import MobileStation.Proofs.Codec.Grammar
import MobileStation.Proofs.Codec.Identity
import MobileStation.Proofs.Codec.Information
import MobileStation.Proofs.Codec.Name
import MobileStation.Proofs.Codec.Packing
import MobileStation.Proofs.Codec.Reading
import MobileStation.Proofs.Codec.RoundTrip
import MobileStation.Proofs.Codec.Septets
import MobileStation.Proofs.Connections.Account
import MobileStation.Proofs.Connections.Change
import MobileStation.Proofs.Connections.Delivery
import MobileStation.Proofs.Connections.Keys
import MobileStation.Proofs.Connections.Loss
import MobileStation.Proofs.Connections.Pending
import MobileStation.Proofs.Connections.Procedures
import MobileStation.Proofs.Connections.Reference
import MobileStation.Proofs.Connections.Table
import MobileStation.Proofs.Detach.Delayed
import MobileStation.Proofs.Detach.Resumed
import MobileStation.Proofs.Frame
import MobileStation.Proofs.Radio.Link
import MobileStation.Proofs.Registration.CellChange
import MobileStation.Proofs.Registration.Coherent
import MobileStation.Proofs.Registration.Forbidden
import MobileStation.Proofs.Registration.Record
import MobileStation.Proofs.Registration.RejectedArea
import MobileStation.Proofs.Registration.Request
import MobileStation.Proofs.Registration.Started
import MobileStation.Proofs.Registration.Traffic
import MobileStation.Proofs.Rules
import MobileStation.Proofs.Run
import MobileStation.Proofs.Service.Answered
import MobileStation.Proofs.Service.Asking
import MobileStation.Proofs.Service.Configured
import MobileStation.Proofs.Service.Emergency
import MobileStation.Proofs.Service.FromIdle
import MobileStation.Proofs.Service.Requests
import MobileStation.Proofs.Service.Written
import MobileStation.Proofs.Serving
import MobileStation.Proofs.Steps.Course
import MobileStation.Proofs.Steps.Dismissed
import MobileStation.Proofs.Steps.Inputs
import MobileStation.Proofs.Steps.Procedures
import MobileStation.Proofs.Supervision.DeadEnd
import MobileStation.Proofs.Supervision.Expiry
import MobileStation.Proofs.Supervision.LeftOver
import MobileStation.Proofs.Supervision.Procedures
import MobileStation.Proofs.Supervision.Turn
import MobileStation.Proofs.Supervision.Undisturbed
import MobileStation.Proofs.Supervision.Waits
import MobileStation.Proofs.Timers
import MobileStation.Proofs.Update.Arming
import MobileStation.Proofs.Update.Attempts
import MobileStation.Proofs.Update.Bounded
import MobileStation.Proofs.Update.Calm
import MobileStation.Proofs.Update.Carries
import MobileStation.Proofs.Update.Durations
import MobileStation.Proofs.Update.Interval
import MobileStation.Proofs.Update.Periodic
import MobileStation.Proofs.Update.Reject
import MobileStation.Proofs.Update.Retry
import MobileStation.Proofs.Update.Steady
import MobileStation.Proofs.Update.Wanted
import MobileStation.State
import MobileStation.Station.Basic
import MobileStation.Station.Call
import MobileStation.Station.Common
import MobileStation.Station.Detach
import MobileStation.Station.Handle
import MobileStation.Station.Idle
import MobileStation.Station.LocationUpdate
import MobileStation.Station.Rules
import MobileStation.Station.Work
import MobileStation.Subscriber
import MobileStation.Text.Blank
import MobileStation.Text.Double
import MobileStation.Text.Hex
import MobileStation.Text.Number
import MobileStation.Text.Quoted
import MobileStation.Text.Shown
import MobileStation.Text.Terminal
import MobileStation.Timer
import MobileStation.Yaml.Cursor
import MobileStation.Yaml.Directive
import MobileStation.Yaml.Error
import MobileStation.Yaml.Node
import MobileStation.Yaml.Numeral
import MobileStation.Yaml.Printer
import MobileStation.Yaml.Scalar
import MobileStation.Yaml.Tag
import MobileStation.Yaml.Token
import MobileStation.Yaml.Value
