import GhostbustersServer.Py.Dict
import GhostbustersServer.Py.Act
import GhostbustersServer.Py.Runs
import GhostbustersServer.Py.Bytes
import GhostbustersServer.Py.Text
import GhostbustersServer.Py.Float32
import GhostbustersServer.Py.Ciphers
import GhostbustersServer.State.RegistrySpec
import GhostbustersServer.Config
import GhostbustersServer.Rmc.Types
import GhostbustersServer.Rmc.Codec
import GhostbustersServer.Prudp.Connection
import GhostbustersServer.Prudp.Payload
import GhostbustersServer.Crypto.Kerberos
import GhostbustersServer.Crypto.Acceptance
import GhostbustersServer.Crypto.TicketFlow
import GhostbustersServer.State.Gatherings
import GhostbustersServer.Db.Career
import GhostbustersServer.World
import GhostbustersServer.Rmc.Dispatcher
import GhostbustersServer.Protocols.Notification
import GhostbustersServer.Protocols.Peers
import GhostbustersServer.Protocols.GameStats
import GhostbustersServer.Protocols.GameLobby
import GhostbustersServer.Protocols.GameLifecycle
import GhostbustersServer.Protocols.Session
import GhostbustersServer.Server
import GhostbustersServer.Effects.LobbyMachine
import GhostbustersServer.Effects.Quiet
import GhostbustersServer.Effects.Primitives
import GhostbustersServer.Effects.Handlers
import GhostbustersServer.Effects.Steps
import GhostbustersServer.Effects.Tolerant
import GhostbustersServer.Effects.Refinement
import GhostbustersServer.Guarantees.Delivery
import GhostbustersServer.Guarantees.Capacity
import GhostbustersServer.Guarantees.Timers
import GhostbustersServer.Guarantees.Gate
import GhostbustersServer.Guarantees.HostConn
import GhostbustersServer.Guarantees.Batch
import GhostbustersServer.Effects.SparkStats
import GhostbustersServer.Effects.Stats
import GhostbustersServer.Guarantees.Store
import GhostbustersServer.Effects.Notices
import GhostbustersServer.Effects.Announce
import GhostbustersServer.Effects.Events
import GhostbustersServer.Effects.Ids
import GhostbustersServer.Effects.Pushes
import GhostbustersServer.Guarantees.Roster
import GhostbustersServer.Guarantees.Framing
import GhostbustersServer.Guarantees.Isolation
import GhostbustersServer.Guarantees.Ports
import GhostbustersServer.Guarantees.Address
import GhostbustersServer.Effects.Sessions
import GhostbustersServer.Guarantees.Players
import GhostbustersServer.Guarantees.Lock
import GhostbustersServer.Guarantees.Control
import GhostbustersServer.Effects.Answers
import GhostbustersServer.Guarantees.Browse
import GhostbustersServer.Guarantees.Entries
import GhostbustersServer.Guarantees.Accounts
import GhostbustersServer.Guarantees.Urls
import GhostbustersServer.Guarantees.Responses
import GhostbustersServer.Guarantees.Packing
import GhostbustersServer.Guarantees.Handshake
import GhostbustersServer.Dns.Upstream
import GhostbustersServer.Guarantees.Forwarding
import GhostbustersServer.Effects.Reports
import GhostbustersServer.Guarantees.Failure
import GhostbustersServer.Guarantees.Credit
import GhostbustersServer.Py.Ledger
import GhostbustersServer.Guarantees.Transactions
import GhostbustersServer.Guarantees.Persistence
import GhostbustersServer.Guarantees.Parsers
import GhostbustersServer.Guarantees.Totals
import GhostbustersServer.Guarantees.Settings
import GhostbustersServer.Guarantees.Reaping
import GhostbustersServer.Guarantees.Search
import GhostbustersServer.Guarantees.HostFirst
import GhostbustersServer.Guarantees.Rejoin
import GhostbustersServer.Guarantees.Join
import GhostbustersServer.Py.Pages
import GhostbustersServer.Guarantees.Leaderboards
import GhostbustersServer.Py.Utf8
import GhostbustersServer.Guarantees.Echo
import GhostbustersServer.Guarantees.Reliable
import GhostbustersServer.Db.Migrations
import GhostbustersServer.Guarantees.Migrations
import GhostbustersServer.Py.Components
import GhostbustersServer.Py.Since
import GhostbustersServer.Guarantees.Bystander
import GhostbustersServer.Guarantees.Streams
import GhostbustersServer.Effects.EventMoves
import GhostbustersServer.Guarantees.History
import GhostbustersServer.Reaper
import GhostbustersServer.Guarantees.Keepalive
import GhostbustersServer.Guarantees.Attendance
import GhostbustersServer.Guarantees.Calls
import GhostbustersServer.Guarantees.SignIn
import GhostbustersServer.Dns.Shim
import GhostbustersServer.Guarantees.Shim
import GhostbustersServer.Guarantees.Pushed
import GhostbustersServer.Guarantees.Coherence
import GhostbustersServer.Guarantees.Probes
import GhostbustersServer.Effects.Queries
import GhostbustersServer.Guarantees.Integrity
import GhostbustersServer.Guarantees.Standings
import GhostbustersServer.Listener
import GhostbustersServer.Guarantees.Datagrams
