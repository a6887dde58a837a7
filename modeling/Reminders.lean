import Reminders.Api.Config
import Reminders.Api.Description
import Reminders.Api.Event
import Reminders.Api.Handlers
import Reminders.Api.MediaType
import Reminders.Api.Message
import Reminders.Api.Query
import Reminders.Api.Router
import Reminders.Api.Settings
import Reminders.Bus.Backend
import Reminders.Bus.Channel
import Reminders.Bus.Config
import Reminders.Bus.Database
import Reminders.Bus.Memory
import Reminders.Bus.Poller
import Reminders.Bus.Topic
import Reminders.Config.Backend
import Reminders.Config.Environment
import Reminders.Config.Error
import Reminders.Config.Logging
import Reminders.Config.Source
import Reminders.Database.Dialogue
import Reminders.Database.Migration
import Reminders.Database.Network
import Reminders.Database.Statement
import Reminders.Deployment
import Reminders.Event.Basic
import Reminders.Event.Wire
import Reminders.Json.Number
import Reminders.Json.Reader
import Reminders.Json.Record
import Reminders.Json.Text
import Reminders.Json.Value
import Reminders.Loop
import Reminders.Main
import Reminders.Notification
import Reminders.Number.Binary64
import Reminders.Number.Decimal
import Reminders.Number.Width
import Reminders.Proofs.Api.Request
import Reminders.Proofs.Api.Service
import Reminders.Proofs.Bus.Attempts
import Reminders.Proofs.Bus.Consumer
import Reminders.Proofs.Bus.Memory
import Reminders.Proofs.Bus.Routing
import Reminders.Proofs.Database.Protocol
import Reminders.Proofs.Database.Sessions
import Reminders.Proofs.Database.Sole
import Reminders.Proofs.Database.Storable
import Reminders.Proofs.Database.Table
import Reminders.Proofs.Delivery
import Reminders.Proofs.Event.Interval
import Reminders.Proofs.Monad
import Reminders.Proofs.Json.Record
import Reminders.Proofs.Loop
import Reminders.Proofs.Notification
import Reminders.Proofs.Scheduler.Memory
import Reminders.Proofs.Scheduler.Run
import Reminders.Proofs.Scheduler.Window
import Reminders.Proofs.Sender.Handle
import Reminders.Proofs.Sender.Stream
import Reminders.Proofs.Store.Agreement
import Reminders.Proofs.Store.Discipline
import Reminders.Proofs.Store.History
import Reminders.Proofs.Store.Interleaving
import Reminders.Proofs.Store.Listing
import Reminders.Proofs.Store.Memory
import Reminders.Proofs.Store.Rows
import Reminders.Proofs.Store.Sole
import Reminders.Proofs.Store.Unhindered
import Reminders.Proofs.Time.Shift
import Reminders.Proofs.Time.Written
import Reminders.Scheduler.Config
import Reminders.Scheduler.Run
import Reminders.Scheduler.Settings
import Reminders.Scheduler.Tick
import Reminders.Sender.Config
import Reminders.Sender.Handle
import Reminders.Sender.Settings
import Reminders.Startup
import Reminders.Store.Backend
import Reminders.Store.Basic
import Reminders.Store.Config
import Reminders.Store.Database
import Reminders.Store.Memory
import Reminders.Text.Blank
import Reminders.Text.Casing
import Reminders.Text.Digits
import Reminders.Text.Lossy
import Reminders.Text.Percent
import Reminders.Text.Printable
import Reminders.Text.Quoted
import Reminders.Text.Range
import Reminders.Text.Words
import Reminders.Time.Civil
import Reminders.Time.Instant
import Reminders.Time.Written
import Reminders.Yaml.Cursor
import Reminders.Yaml.Node
import Reminders.Yaml.Scalar
import Reminders.Yaml.Token
import Reminders.Yaml.Typed
import Reminders.Proofs.Json.Number
import Reminders.Proofs.Time.Clock
import Reminders.Proofs.Wire
import Reminders.Proofs.Shutdown
import Reminders.Proofs.Bus.Reading
import Reminders.Proofs.Bus.Mail
import Reminders.Proofs.Bus.Agreement
import Reminders.Proofs.Store.Independence
import Reminders.Proofs.Scheduler.Retention
import Reminders.Proofs.Scheduler.Arrival
import Reminders.Proofs.Json.Skip
import Reminders.Proofs.Api.Dispatch
import Reminders.Proofs.Api.Resource
import Reminders.Proofs.Api.ReadAfterWrite
import Reminders.Proofs.Bus.Topic
import Reminders.Proofs.Database.Transaction
import Reminders.Proofs.Store.Writing
import Reminders.Proofs.Text.Bytes
import Reminders.Proofs.Bus.Publishing
import Reminders.Proofs.Scheduler.Tick
import Reminders.Proofs.Time.Nanos
import Reminders.Proofs.Scheduler.Saturation
import Reminders.Proofs.Store.Outcome
import Reminders.Proofs.Text.Lossy
import Reminders.Proofs.Api.Query
import Reminders.Proofs.Api.FreeTime
import Reminders.Proofs.Sender.Handled
import Reminders.Proofs.Store.Determinacy
import Reminders.Proofs.Api.Rules
import Reminders.Proofs.Api.Calls
import Reminders.Proofs.Bus.Order
import Reminders.Proofs.Bus.Pace
import Reminders.Proofs.Settings
import Reminders.Proofs.Limits
