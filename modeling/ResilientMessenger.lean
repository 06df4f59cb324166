import ResilientMessenger.Core.ByteCodec
import ResilientMessenger.Core.ByteReader
import ResilientMessenger.Core.Table
import ResilientMessenger.Core.Runs
import ResilientMessenger.Core.Transaction
import ResilientMessenger.Core.Aead
import ResilientMessenger.Core.Signature
import ResilientMessenger.Core.Locking
import ResilientMessenger.Core.Paging
import ResilientMessenger.Core.Mailbox
import ResilientMessenger.Core.Statements
import ResilientMessenger.Core.Attempts
import ResilientMessenger.Core.StableSort
import ResilientMessenger.Core.Windows
import ResilientMessenger.Protocol.Frames
import ResilientMessenger.Protocol.Truncation
import ResilientMessenger.Store.LocalDatabase
import ResilientMessenger.Store.Operations
import ResilientMessenger.Store.MessageLifecycle
import ResilientMessenger.Store.Acknowledgements
import ResilientMessenger.Store.KeyRotation
import ResilientMessenger.Store.LockOrder
import ResilientMessenger.Store.Durability
import ResilientMessenger.Store.Faults
import ResilientMessenger.Store.Rotations
import ResilientMessenger.Transport.Directory
import ResilientMessenger.Transport.Manager
import ResilientMessenger.Transport.Outbox
import ResilientMessenger.Transport.Contacts
import ResilientMessenger.Transport.DirectoryCodec
import ResilientMessenger.Transport.RelayTrust
import ResilientMessenger.Transport.RelayOrder
import ResilientMessenger.Identity.Payloads
import ResilientMessenger.Identity.Invites
import ResilientMessenger.Server.Schema
import ResilientMessenger.Server.Backend
import ResilientMessenger.Server.Dispatch
import ResilientMessenger.Server.Redelivery
import ResilientMessenger.Server.CursorVisibility
import ResilientMessenger.Server.GroupCursors
import ResilientMessenger.Server.OneTimeItems
import ResilientMessenger.Server.Calls
import ResilientMessenger.Server.Effects
import ResilientMessenger.Server.MembershipLog
import ResilientMessenger.Server.EventProvenance
import ResilientMessenger.Server.Responses
import ResilientMessenger.Server.RefreshFamilies
import ResilientMessenger.Server.StoredUploads
import ResilientMessenger.Server.FailedRequests
import ResilientMessenger.Server.Usernames
import ResilientMessenger.Server.Replays
import ResilientMessenger.Server.Revocation
import ResilientMessenger.Server.SyncPages
import ResilientMessenger.Server.SingleItems
import ResilientMessenger.Server.RateLimits
import ResilientMessenger.Server.SigningPurposes
import ResilientMessenger.Store.PendingUploads
import ResilientMessenger.Store.Readings
import ResilientMessenger.Store.Wipes
import ResilientMessenger.Store.Revisions
import ResilientMessenger.Store.Inbox
import ResilientMessenger.Store.Cursors
import ResilientMessenger.Store.TamperedRows
import ResilientMessenger.Transport.LostAnswers
import ResilientMessenger.Transport.Exchanges
import ResilientMessenger.Transport.Flushes
import ResilientMessenger.Transport.Counters
import ResilientMessenger.Transport.Retries
import ResilientMessenger.Crypto.OpenMls
import ResilientMessenger.Crypto.Engine
import ResilientMessenger.Crypto.Contexts
import ResilientMessenger.Crypto.Forks
import ResilientMessenger.Crypto.Snapshots
import ResilientMessenger.Crypto.Restarts
import ResilientMessenger.Crypto.Restores
import ResilientMessenger.Core.Hex
import ResilientMessenger.Server.RequestedCalls
import ResilientMessenger.Server.Sessions
import ResilientMessenger.Server.Endpoint
import ResilientMessenger.Server.LongPolls
import ResilientMessenger.Server.Answers
import ResilientMessenger.Server.Throttling
import ResilientMessenger.Server.Registrations
import ResilientMessenger.Server.Receipts
import ResilientMessenger.Identity.Recovery
import ResilientMessenger.Identity.Accounts
import ResilientMessenger.Server.Onboarding
import ResilientMessenger.Server.RecoveryPackages
import ResilientMessenger.Transport.Relay
import ResilientMessenger.Transport.SenderRules
import ResilientMessenger.Transport.EndToEnd
import ResilientMessenger.Crypto.Credentials
