import TeamsMirror.Lib.Runs
import TeamsMirror.Lib.Logging
import TeamsMirror.Lib.Maps
import TeamsMirror.Lib.Framing
import TeamsMirror.Lib.Lists
import TeamsMirror.Lib.Packed
import TeamsMirror.Common.Protocol
import TeamsMirror.Server.Models
import TeamsMirror.Common.Socket
import TeamsMirror.Server.ClientManager
import TeamsMirror.Common.Uuid
import TeamsMirror.Server.CommandUtils
import TeamsMirror.Server.Session
import TeamsMirror.Server.PrivateMessages
import TeamsMirror.Server.Subscriptions
import TeamsMirror.Server.Navigation
import TeamsMirror.Server.Create
import TeamsMirror.Server.Effects
import TeamsMirror.Server.Dispatcher
import TeamsMirror.Server.Inversion
import TeamsMirror.Server.System
import TeamsMirror.Server.Sessions
import TeamsMirror.Server.Atomicity
import TeamsMirror.Server.Provenance
import TeamsMirror.Server.Presence
import TeamsMirror.Common.Requests
import TeamsMirror.Server.Delivery
import TeamsMirror.Server.Store
import TeamsMirror.Lib.Lines
import TeamsMirror.Database.Save
import TeamsMirror.Database.Load
import TeamsMirror.Database.Records
import TeamsMirror.Database.Forest
import TeamsMirror.Database.Storage
import TeamsMirror.Database.RoundTrip
import TeamsMirror.Database.Lifetimes
import TeamsMirror.Server.Confidentiality
import TeamsMirror.Server.Inbound
import TeamsMirror.Client.Wire
import TeamsMirror.Link.Outbound
import TeamsMirror.Link.PollLoop
import TeamsMirror.Link.Leakage
import TeamsMirror.Client.Input
import TeamsMirror.Client.Display
import TeamsMirror.Client.Commands
import TeamsMirror.Client.Replies
import TeamsMirror.Link.Answers
import TeamsMirror.Link.Synchrony
import TeamsMirror.Link.Agreement
import TeamsMirror.Link.Dialogue
import TeamsMirror.Server.Recipients
import TeamsMirror.Link.Gate
import TeamsMirror.Link.Privacy
import TeamsMirror.Server.Growth
import TeamsMirror.Link.Isolation
import TeamsMirror.Server.Naming
import TeamsMirror.Server.References
import TeamsMirror.Database.Integrity
import TeamsMirror.Server.Letters
import TeamsMirror.Database.Conversations
import TeamsMirror.Server.PresenceEvents
import TeamsMirror.Link.Turns
import TeamsMirror.Link.LoggedTurns
import TeamsMirror.Link.Sockets
import TeamsMirror.Link.Signals
import TeamsMirror.Client.Streams
import TeamsMirror.Link.RunLoop
import TeamsMirror.Database.Positions
import TeamsMirror.Database.WellFormed
import TeamsMirror.Server.Resolution
import TeamsMirror.Link.Conformance
import TeamsMirror.Lib.Sorting
import TeamsMirror.Database.Chronology
import TeamsMirror.Database.Histories
import TeamsMirror.Server.Membership
import TeamsMirror.Database.Memberships
import TeamsMirror.Lib.Reads
import TeamsMirror.Server.Bounds
import TeamsMirror.Server.Malformed
import TeamsMirror.Client.Bounds
import TeamsMirror.Client.Parser
import TeamsMirror.Client.Grammar
import TeamsMirror.Link.Hostile
import TeamsMirror.Link.Fidelity
import TeamsMirror.Link.Round
import TeamsMirror.Database.FailedSaves
import TeamsMirror.Server.Logger
import TeamsMirror.Server.Journal
import TeamsMirror.Server.Replay
import TeamsMirror.Database.Journals
import TeamsMirror.Link.Feeds
import TeamsMirror.Link.Printed
import TeamsMirror.Link.Followed
import TeamsMirror.Link.Service
import TeamsMirror.Server.Alike
import TeamsMirror.Server.Transactions
import TeamsMirror.Server.Noninterference
import TeamsMirror.Server.Outsiders
import TeamsMirror.Server.Queries
import TeamsMirror.Database.Restarts
import TeamsMirror.Database.Normal
import TeamsMirror.Lib.Cuts
import TeamsMirror.Link.Pipelining
import TeamsMirror.Server.Main
import TeamsMirror.Link.Executable
import TeamsMirror.Link.ExitStatus
