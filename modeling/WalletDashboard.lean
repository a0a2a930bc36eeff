import WalletDashboard.Amount
import WalletDashboard.Binary64
import WalletDashboard.Binary64.Shortest
import WalletDashboard.Calendar
import WalletDashboard.Chain
import WalletDashboard.Dashboard
import WalletDashboard.Dashboard.Mode
import WalletDashboard.Dashboard.Session
import WalletDashboard.Dashboard.View
import WalletDashboard.Decimal
import WalletDashboard.Failure
import WalletDashboard.HostName
import WalletDashboard.HostName.Direction
import WalletDashboard.HostName.Joining
import WalletDashboard.HostName.Mapping
import WalletDashboard.HostName.Punycode
import WalletDashboard.Json
import WalletDashboard.Json.Decode
import WalletDashboard.Json.Encode
import WalletDashboard.Json.Number
import WalletDashboard.Json.Read
import WalletDashboard.Json.Write
import WalletDashboard.Notice
import WalletDashboard.Pagination
import WalletDashboard.Pagination.Cursor
import WalletDashboard.Proofs.Alarms
import WalletDashboard.Proofs.Coherence
import WalletDashboard.Proofs.ExportScreen
import WalletDashboard.Proofs.Operations
import WalletDashboard.Proofs.Pages
import WalletDashboard.Proofs.Refreshing
import WalletDashboard.Proofs.Runs
import WalletDashboard.Refresher
import WalletDashboard.Rewards
import WalletDashboard.Rewards.Balance
import WalletDashboard.Rpc
import WalletDashboard.Rpc.Delivery
import WalletDashboard.Rpc.Endpoint
import WalletDashboard.Rpc.Node
import WalletDashboard.Service
import WalletDashboard.Service.Choice
import WalletDashboard.Service.Memory
import WalletDashboard.Service.Remote
import WalletDashboard.Service.Secrets
import WalletDashboard.Settings
import WalletDashboard.Settings.Layers
import WalletDashboard.Settings.Load
import WalletDashboard.Settings.Value
import WalletDashboard.Text.Blank
import WalletDashboard.Text.Canonical
import WalletDashboard.Text.Cased
import WalletDashboard.Text.CharRange
import WalletDashboard.Text.CodeTable
import WalletDashboard.Text.Combining
import WalletDashboard.Text.Composition
import WalletDashboard.Text.Digits
import WalletDashboard.Text.LowerCase
import WalletDashboard.Text.Padded
import WalletDashboard.Text.Quoted
import WalletDashboard.Text.Split
import WalletDashboard.Text.Unprintable
import WalletDashboard.Timer
import WalletDashboard.Toml.DateTime
import WalletDashboard.Toml.Read
import WalletDashboard.Toml.Scalar
import WalletDashboard.Toml.Tables
import WalletDashboard.Toml.Text
import WalletDashboard.Toml.Value
import WalletDashboard.Url
import WalletDashboard.Url.Host
import WalletDashboard.Url.Ipv4
import WalletDashboard.Url.Ipv6
import WalletDashboard.Url.Path
import WalletDashboard.Url.Percent
import WalletDashboard.Url.Read
import WalletDashboard.Url.Scheme
import WalletDashboard.Proofs.MemoryRuns
import WalletDashboard.Proofs.Refreshed
import WalletDashboard.Proofs.Records
import WalletDashboard.Proofs.Simulation
import WalletDashboard.Proofs.Answers
import WalletDashboard.Proofs.MemoryNode
import WalletDashboard.Proofs.Bookkeeping
import WalletDashboard.Proofs.Exchanges
import WalletDashboard.Proofs.Switching
import WalletDashboard.Proofs.PageTurning
import WalletDashboard.Proofs.Reporting
import WalletDashboard.Proofs.Requests
import WalletDashboard.Proofs.WellFormed
import WalletDashboard.Proofs.Acceptance
import WalletDashboard.Proofs.Envelopes
import WalletDashboard.Proofs.Redaction
import WalletDashboard.Proofs.Secrecy
import WalletDashboard.Proofs.Conservation
import WalletDashboard.Proofs.Spelling
import WalletDashboard.Proofs.Importing
import WalletDashboard.Proofs.SideBySide
import WalletDashboard.Proofs.Watching
import WalletDashboard.Proofs.Accounts
import WalletDashboard.Proofs.Listening
import WalletDashboard.Proofs.OwnPayments
import WalletDashboard.Proofs.FailedLoads
import WalletDashboard.Proofs.Attempts
import WalletDashboard.Proofs.Layering
import WalletDashboard.Proofs.Resolving
import WalletDashboard.Proofs.FeedByBlock
import WalletDashboard.Proofs.Refusals
import WalletDashboard.Proofs.VariableNames
import WalletDashboard.Proofs.LowerWords
import WalletDashboard.Proofs.Registering
import WalletDashboard.Proofs.ReadingThrough
import WalletDashboard.Dashboard.Join
import WalletDashboard.Pagination.Words
import WalletDashboard.Proofs.Interchange
import WalletDashboard.Proofs.WordPages
import WalletDashboard.Proofs.Punctuality
import WalletDashboard.Proofs.SlidingWindow
import WalletDashboard.Proofs.StartupImport
import WalletDashboard.Proofs.SwitchingBack
import WalletDashboard.Proofs.Footprints
import WalletDashboard.Proofs.Unheard
import WalletDashboard.Proofs.Numerals
import WalletDashboard.Proofs.CoinTexts
import WalletDashboard.Proofs.CalendarDays
import WalletDashboard.Proofs.TimeTexts
import WalletDashboard.Proofs.ActivityRows
import WalletDashboard.Pagination.WordCursor
import WalletDashboard.Proofs.CursorSteps
import WalletDashboard.Proofs.ComparedForm
