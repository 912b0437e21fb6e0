import Messinger.Library.Rows
import Messinger.Library.Runs
import Messinger.Library.Roster
import Messinger.Library.Ordered
import Messinger.Library.DistinctKeys
import Messinger.Library.Index
import Messinger.Library.Walk
import Messinger.Abstract.Timeline
import Messinger.Abstract.TimelineWalks
import Messinger.Model.Types
import Messinger.Model.Platform
import Messinger.Model.Store
import Messinger.Model.Repositories
import Messinger.Model.ConversationService
import Messinger.Model.StorageService
import Messinger.Model.MessageService
import Messinger.Model.ConversationCalls
import Messinger.Model.SessionRepository
import Messinger.Model.Authentication
import Messinger.Model.AuthService
import Messinger.Model.AdminService
import Messinger.Model.Router
import Messinger.Model.Exchanges
import Messinger.Model.System
import Messinger.Model.ConnectionManager
import Messinger.Proof.Membership
import Messinger.Proof.Calls
import Messinger.Proof.GroupCalls
import Messinger.Proof.InvitationCalls
import Messinger.Proof.MessageCalls
import Messinger.Proof.PrivateCalls
import Messinger.Proof.UploadCalls
import Messinger.Proof.Rosters
import Messinger.Proof.Ownership
import Messinger.Proof.GovernedCalls
import Messinger.Proof.ActiveOwner
import Messinger.Proof.OwnershipConcurrency
import Messinger.Proof.InvitationRuns
import Messinger.Proof.FreshInvitations
import Messinger.Proof.HistoryPages
import Messinger.Proof.HistoryQueries
import Messinger.Proof.HiddenHistory
import Messinger.Proof.PrivateRuns
import Messinger.Proof.EntitledMessages
import Messinger.Proof.Confidentiality
import Messinger.Proof.HistoryWalk
import Messinger.Proof.HistoryTermination
import Messinger.Proof.HistoryChronology
import Messinger.Proof.HistoryWindows
import Messinger.Proof.HistoryPagination
import Messinger.Proof.Authentications
import Messinger.Proof.Revocations
import Messinger.Proof.LogoutRevokes
import Messinger.Proof.Accounts
import Messinger.Proof.AccountCalls
import Messinger.Proof.Registrations
import Messinger.Proof.Middlewares
import Messinger.Proof.TokenFlow
import Messinger.Proof.SignIns
import Messinger.Proof.Serving
import Messinger.Proof.Appointments
import Messinger.Proof.Escalation
import Messinger.Proof.Contents
import Messinger.Proof.Consistency
import Messinger.Proof.MemberWrites
import Messinger.Proof.ContentWrites
import Messinger.Proof.ConsistentCalls
import Messinger.Proof.SystemRuns
import Messinger.Proof.ConversationContents
import Messinger.Proof.ConversationDeletions
import Messinger.Proof.StrangerRequests
import Messinger.Proof.ConnectionIndex
import Messinger.Library.Tasks
import Messinger.Model.WebSocketServer
import Messinger.Proof.ServerTurns
import Messinger.Proof.ConnectionLeaks
import Messinger.Proof.Presence
import Messinger.Model.OfflineSync
import Messinger.Proof.DeliveryStatus
import Messinger.Model.MessageTasks
import Messinger.Proof.UploadsOnce
import Messinger.Proof.MessageTurns
import Messinger.Proof.PrivateKeys
import Messinger.Proof.PrivatePairs
import Messinger.Model.SessionCalls
import Messinger.Proof.SessionTokens
import Messinger.Proof.Rotations
import Messinger.Proof.SigningPlatform
import Messinger.Proof.ConcurrentRefreshes
import Messinger.Proof.SingleUse
import Messinger.Model.SessionTasks
import Messinger.Proof.AuthTurns
import Messinger.Proof.RevokedRotations
import Messinger.Abstract.GroupLog
import Messinger.Proof.EventLog
import Messinger.Proof.EventReplay
import Messinger.Proof.DeliveryTurns
import Messinger.Library.Statuses
import Messinger.Proof.InvitationLifeCycle
import Messinger.Proof.MessageContents
import Messinger.Model.Removals
import Messinger.Proof.FileDeletions
import Messinger.Proof.OrphanedFiles
import Messinger.Proof.DanglingAttachments
import Messinger.Model.PrivateTasks
import Messinger.Proof.PrivateTurns
import Messinger.Proof.Occupancy
import Messinger.Proof.PairOpenings
import Messinger.Proof.Reopenings
import Messinger.Model.UserCalls
import Messinger.Proof.GroupAuthority
import Messinger.Proof.AttachmentOrigins
import Messinger.Proof.SessionIdentity
import Messinger.Model.LoginKeys
import Messinger.Proof.KeyTexts
import Messinger.Proof.LoginKeys
import Messinger.Library.Tally
import Messinger.Model.RetentionCalls
import Messinger.Proof.DeliveryRecords
import Messinger.Proof.CounterWrites
import Messinger.Proof.CountedCalls
import Messinger.Proof.UnreadCounts
import Messinger.Proof.UnreadBounds
import Messinger.Model.Frames
import Messinger.Model.Handlers
import Messinger.Model.LiveServer
import Messinger.Proof.InertListeners
import Messinger.Proof.Disclosure
import Messinger.Proof.AbandonedGroups
import Messinger.Proof.DeletedUsers
import Messinger.Proof.Admissions
import Messinger.Proof.Audiences
import Messinger.Proof.ConnectionTables
import Messinger.Proof.GroupAudiences
import Messinger.Proof.GroupFanOut
import Messinger.Proof.PairRooms
import Messinger.Proof.PairRoomCalls
import Messinger.Proof.PairRoomRuns
import Messinger.Proof.PrivateArrivals
import Messinger.Proof.FailedMessages
import Messinger.Proof.SyncedMessages
import Messinger.Proof.Confirmations
import Messinger.Model.DeliveryTasks
import Messinger.Proof.DeliveryTimes
import Messinger.Library.Keyset
import Messinger.Proof.ListWalks
import Messinger.Proof.MessageWalks
import Messinger.Proof.TokenFaults
import Messinger.Proof.RoleGuards
import Messinger.Proof.AuthTimeouts
import Messinger.Library.NormalForms
import Messinger.Proof.CanonicalKeys
import Messinger.Proof.TokenReturns
import Messinger.Proof.UploadRequests
import Messinger.Model.DtoValidation
import Messinger.Proof.ReportedValues
import Messinger.Library.Promises
import Messinger.Model.PushNotifications
import Messinger.Model.AdminTasks
import Messinger.Proof.AdminNames
import Messinger.Proof.DeviceBindings
import Messinger.Proof.PushFanOut
import Messinger.Proof.SentContents
import Messinger.Proof.TextEncoding
import Messinger.Library.Slices
import Messinger.Model.BucketAnswers
import Messinger.Proof.BucketErrors
import Messinger.Model.NodeProcess
import Messinger.Proof.UnhandledRejections
import Messinger.Library.ForeignKeys
import Messinger.Library.SchemaChanges
import Messinger.Model.Migrations
import Messinger.Model.Tables
import Messinger.Proof.MigrationRuns
import Messinger.Model.Service
import Messinger.Proof.Writes
import Messinger.Proof.CommittedCalls
import Messinger.Proof.CommittedRequests
import Messinger.Proof.CommittedTasks
import Messinger.Proof.Cascades
import Messinger.Proof.Integrity
import Messinger.Proof.IntegralWrites
import Messinger.Proof.StoredMessages
import Messinger.Library.Subsystems
import Messinger.Proof.SequentialCalls
import Messinger.Model.Backend
import Messinger.Proof.CommittedProcess
