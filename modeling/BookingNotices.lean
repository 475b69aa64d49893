import BookingNotices.Answer
import BookingNotices.Blob.Disk
import BookingNotices.Blob.Name
import BookingNotices.Blob.Shelf
import BookingNotices.Booking.Records
import BookingNotices.Booking.Status
import BookingNotices.Bus.Basic
import BookingNotices.Bus.Script
import BookingNotices.Bytes
import BookingNotices.Defaults
import BookingNotices.Documents
import BookingNotices.Event.Envelope
import BookingNotices.Event.Topics
import BookingNotices.Failure
import BookingNotices.Id
import BookingNotices.Invoice.Document
import BookingNotices.Invoice.Layout
import BookingNotices.Invoice.Metrics
import BookingNotices.Invoice.Params
import BookingNotices.Invoice.Render
import BookingNotices.Invoice.TicketCode
import BookingNotices.Invoice.Wrap
import BookingNotices.Json.Cursor
import BookingNotices.Json.Document
import BookingNotices.Json.Fault
import BookingNotices.Json.Shape
import BookingNotices.Json.Text
import BookingNotices.Json.Value
import BookingNotices.Mail.Address
import BookingNotices.Mail.ContentType
import BookingNotices.Mail.Domain.Ascii
import BookingNotices.Mail.Domain.Direction
import BookingNotices.Mail.Domain.Joining
import BookingNotices.Mail.Domain.Mapping
import BookingNotices.Mail.Domain.Punycode
import BookingNotices.Mail.Lexeme
import BookingNotices.Mail.Message
import BookingNotices.Mail.Relay
import BookingNotices.Network
import BookingNotices.Notice.Basic
import BookingNotices.Notice.Email
import BookingNotices.Notice.Error
import BookingNotices.Notice.Status
import BookingNotices.Numeric.Double
import BookingNotices.Numeric.Rounding
import BookingNotices.Numeric.Single
import BookingNotices.Numeric.Total
import BookingNotices.Registry.Basic
import BookingNotices.Registry.Remote
import BookingNotices.Service.Bench
import BookingNotices.Service.Consumer
import BookingNotices.Service.Create
import BookingNotices.Service.Delivery
import BookingNotices.Service.Loop
import BookingNotices.Service.Sweep
import BookingNotices.Service.Transaction
import BookingNotices.Service.Worker
import BookingNotices.Service.World
import BookingNotices.Settings.Basic
import BookingNotices.Settings.Entry
import BookingNotices.Settings.Lenient
import BookingNotices.Settings.Load
import BookingNotices.Settings.Problem
import BookingNotices.Settings.Section
import BookingNotices.Settings.Startup
import BookingNotices.Settings.Variables
import BookingNotices.Settings.View
import BookingNotices.Store.Basic
import BookingNotices.Store.Guarded
import BookingNotices.Stream.Backoff
import BookingNotices.Stream.Consumer
import BookingNotices.Stream.Fields
import BookingNotices.Stream.Progress
import BookingNotices.Stream.Server
import BookingNotices.Supply
import BookingNotices.Table
import BookingNotices.Text.Alphanumeric
import BookingNotices.Text.Blank
import BookingNotices.Text.Cased
import BookingNotices.Text.CharSet
import BookingNotices.Text.Composed
import BookingNotices.Text.Integer
import BookingNotices.Text.Lowercase
import BookingNotices.Text.Mark
import BookingNotices.Text.Parts
import BookingNotices.Text.Quoted
import BookingNotices.Text.Shifts
import BookingNotices.Text.Unprintable
import BookingNotices.Time.Calendar
import BookingNotices.Time.Rfc3339
import BookingNotices.Time.Timestamp
import BookingNotices.Proofs.Store
import BookingNotices.Proofs.Creation
import BookingNotices.Proofs.Dispatch.Convergence
import BookingNotices.Proofs.Dispatch.Termination
import BookingNotices.Proofs.Recovery
import BookingNotices.Proofs.Stream.Kept
import BookingNotices.Proofs.Traffic.Announced
import BookingNotices.Proofs.Traffic.Basic
import BookingNotices.Proofs.Traffic.Dedup
import BookingNotices.Proofs.Traffic.Forward
import BookingNotices.Proofs.Traffic.Invoices
import BookingNotices.Proofs.Traffic.Issued
import BookingNotices.Proofs.Traffic.Lease
import BookingNotices.Proofs.Traffic.Ledger
import BookingNotices.Proofs.Traffic.Mail
import BookingNotices.Proofs.Traffic.Undisturbed
import BookingNotices.Proofs.Dispatch.Journal
import BookingNotices.Proofs.Dispatch.Conservation
import BookingNotices.Proofs.Json.Leaf
import BookingNotices.Proofs.Json.RoundTrip
import BookingNotices.Proofs.Time.Calendar
import BookingNotices.Proofs.Time.Rfc3339
import BookingNotices.Proofs.Stream.RoundTrip
import BookingNotices.Proofs.Numeric.Rounding
import BookingNotices.Proofs.Numeric.Single
import BookingNotices.Proofs.Invoice.Greedy
import BookingNotices.Proofs.Invoice.Width
import BookingNotices.Proofs.Invoice.Lines
import BookingNotices.Proofs.Invoice.Breaks
import BookingNotices.Proofs.Invoice.Wrap
import BookingNotices.Proofs.Invoice.Marks
import BookingNotices.Proofs.Invoice.Rows
import BookingNotices.Proofs.Invoice.Page
import BookingNotices.Proofs.Invoice.Fields
import BookingNotices.Proofs.Stream.Deliveries
import BookingNotices.Proofs.Stream.Limit
import BookingNotices.Proofs.Lifecycle
import BookingNotices.Proofs.Inquiry
import BookingNotices.Proofs.Resolution
import BookingNotices.Proofs.Traceless
import BookingNotices.Proofs.Attempts
import BookingNotices.Proofs.Sweep
import BookingNotices.Proofs.Identity
import BookingNotices.Proofs.Crossing
import BookingNotices.Proofs.Consumption
import BookingNotices.Proofs.Stream.Cause
import BookingNotices.Proofs.Blob.Path
import BookingNotices.Proofs.Blob.Steps
import BookingNotices.Proofs.Blob.Folder
import BookingNotices.Proofs.Blob.Map
import BookingNotices.Proofs.Blob.Shared
import BookingNotices.Proofs.Blob.Exclusion
import BookingNotices.Proofs.Startup
import BookingNotices.Proofs.Guarded
