import Uplink.Agenda
import Uplink.Application
import Uplink.Codec.Config
import Uplink.Codec.Decoder
import Uplink.Codec.Firmware
import Uplink.Codec.Message
import Uplink.Codec.Shadow
import Uplink.CommandLine.Basic
import Uplink.CommandLine.Command
import Uplink.CommandLine.Help
import Uplink.CommandLine.Reading
import Uplink.Config
import Uplink.ConfigFile
import Uplink.Connection
import Uplink.Decimal.Literal
import Uplink.Decimal.Shortest
import Uplink.Directory
import Uplink.Dispatcher
import Uplink.Event
import Uplink.Failure
import Uplink.Flags.Register
import Uplink.Flags.Waits
import Uplink.Instant
import Uplink.Journal
import Uplink.Journal.Filter
import Uplink.Journal.Layout
import Uplink.Json.Printer
import Uplink.Json.Reader
import Uplink.Main
import Uplink.Message
import Uplink.Metrics
import Uplink.Monitor
import Uplink.Phase
import Uplink.Proofs.Agenda
import Uplink.Proofs.Alongside
import Uplink.Proofs.Booked
import Uplink.Proofs.Codec.Config
import Uplink.Proofs.Codec.Defaults
import Uplink.Proofs.Codec.Json
import Uplink.Proofs.ConfigFile
import Uplink.Proofs.Connection
import Uplink.Proofs.Dispatcher
import Uplink.Proofs.Dispatching
import Uplink.Proofs.Echoes
import Uplink.Proofs.Entries
import Uplink.Proofs.Flags.Faithful
import Uplink.Proofs.Flags.History
import Uplink.Proofs.Flags.Outcome
import Uplink.Proofs.Flags.Register
import Uplink.Proofs.Flags.Stands
import Uplink.Proofs.Flags.Turns
import Uplink.Proofs.Flags.Waiters
import Uplink.Proofs.Heed
import Uplink.Proofs.Impulses
import Uplink.Proofs.Losses
import Uplink.Proofs.Metrics
import Uplink.Proofs.Patient
import Uplink.Proofs.Queue.Books
import Uplink.Proofs.Queue.Fifo
import Uplink.Proofs.Queue.Outgoing
import Uplink.Proofs.Queue.Receivers
import Uplink.Proofs.Queue.Traffic
import Uplink.Proofs.Queue.Turns
import Uplink.Proofs.Queue.Upkeep
import Uplink.Proofs.Session.Alongside
import Uplink.Proofs.Session.Aside
import Uplink.Proofs.Session.Association
import Uplink.Proofs.Session.Balance
import Uplink.Proofs.Session.Calls
import Uplink.Proofs.Session.Company
import Uplink.Proofs.Session.Connects
import Uplink.Proofs.Session.Courier
import Uplink.Proofs.Session.Disconnect
import Uplink.Proofs.Session.Dispatch
import Uplink.Proofs.Session.Hearing
import Uplink.Proofs.Session.Jobs
import Uplink.Proofs.Session.Joint
import Uplink.Proofs.Session.Link
import Uplink.Proofs.Session.Mark
import Uplink.Proofs.Session.Others
import Uplink.Proofs.Session.Pending
import Uplink.Proofs.Session.Program
import Uplink.Proofs.Session.Reached
import Uplink.Proofs.Session.Sends
import Uplink.Proofs.Session.Service
import Uplink.Proofs.Session.Setup
import Uplink.Proofs.Session.Solo
import Uplink.Proofs.Session.Standby
import Uplink.Proofs.Session.Strays
import Uplink.Proofs.Session.Supervised
import Uplink.Proofs.Session.Table
import Uplink.Proofs.Session.Tidings
import Uplink.Proofs.Session.Timetable
import Uplink.Proofs.Session.Verdict
import Uplink.Proofs.Session.Vigil
import Uplink.Proofs.Simulation
import Uplink.Proofs.Strays
import Uplink.Proofs.Supervisor.Alongside
import Uplink.Proofs.Supervisor.Balance
import Uplink.Proofs.Supervisor.Bookkeeping
import Uplink.Proofs.Supervisor.Ledger
import Uplink.Proofs.Supervisor.Outlook
import Uplink.Proofs.Supervisor.Program
import Uplink.Proofs.Supervisor.Setup
import Uplink.Proofs.Supervisor.Steps
import Uplink.Proofs.Supervisor.Timetable
import Uplink.Proofs.Supervisor.Trail
import Uplink.Proofs.Supervisor.Verdict
import Uplink.Proofs.Supervisor.Vigil
import Uplink.Proofs.Sure
import Uplink.Proofs.Tells
import Uplink.Proofs.Toml.Bounds
import Uplink.Proofs.Toml.Document
import Uplink.Proofs.Toml.Number
import Uplink.Proofs.Toml.Text
import Uplink.Queue.Channel
import Uplink.Queue.Custody
import Uplink.Queue.Kept
import Uplink.Queue.Outgoing
import Uplink.Queue.Receivers
import Uplink.Session.Action
import Uplink.Session.Basic
import Uplink.Session.Description
import Uplink.Session.Turn
import Uplink.Shadow
import Uplink.Simulated.Cloud
import Uplink.Simulated.Modem
import Uplink.Simulation
import Uplink.Supervisor.Basic
import Uplink.Supervisor.Run
import Uplink.Text.Blank
import Uplink.Text.Hex
import Uplink.Text.Hidden
import Uplink.Text.Quoted
import Uplink.Toml.Moment
import Uplink.Toml.Number
import Uplink.Toml.Printer
import Uplink.Toml.Reader
import Uplink.Toml.Table
import Uplink.Toml.Text
import Uplink.Uuid
import Uplink.Value
