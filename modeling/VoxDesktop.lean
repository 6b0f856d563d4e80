import VoxDesktop.Application.AnnouncedServer
import VoxDesktop.Application.DeliveryStates
import VoxDesktop.Application.EchoRace
import VoxDesktop.Application.Envelopes
import VoxDesktop.Application.Handlers
import VoxDesktop.Application.NewConversations
import VoxDesktop.Application.PollCursors
import VoxDesktop.Application.PushAndHistory
import VoxDesktop.Application.ReferenceApplication
import VoxDesktop.Application.RefreshTokens
import VoxDesktop.Application.ServiceLocator
import VoxDesktop.Application.SubmittedMessages
import VoxDesktop.Application.TimestampOverflow
import VoxDesktop.Crypto.AttachmentCrypto
import VoxDesktop.Crypto.CryptoHelpers
import VoxDesktop.Crypto.DoubleRatchetSession
import VoxDesktop.Crypto.FingerprintService
import VoxDesktop.Crypto.HkdfSha256
import VoxDesktop.Crypto.IdentityDurability
import VoxDesktop.Crypto.IdentityGenerations
import VoxDesktop.Crypto.IdentityKeyStore
import VoxDesktop.Crypto.OneTimePrekeys
import VoxDesktop.Crypto.PrekeyIds
import VoxDesktop.Crypto.PrekeyManager
import VoxDesktop.Crypto.PrekeyRotation
import VoxDesktop.Crypto.RatchetChannel
import VoxDesktop.Crypto.RatchetContext
import VoxDesktop.Crypto.RatchetExchange
import VoxDesktop.Crypto.RatchetMessage
import VoxDesktop.Crypto.RatchetNonces
import VoxDesktop.Crypto.RatchetReflection
import VoxDesktop.Crypto.RatchetRejection
import VoxDesktop.Crypto.RatchetSecrecy
import VoxDesktop.Crypto.ReferenceSodium
import VoxDesktop.Crypto.ReferenceVault
import VoxDesktop.Crypto.SenderKeyAgreement
import VoxDesktop.Crypto.SenderKeyEpochs
import VoxDesktop.Crypto.SenderKeyManager
import VoxDesktop.Crypto.SyncCrypto
import VoxDesktop.Crypto.VaultContents
import VoxDesktop.Crypto.VaultDurability
import VoxDesktop.Crypto.VaultFailure
import VoxDesktop.Crypto.VaultInvariants
import VoxDesktop.Crypto.VaultReopen
import VoxDesktop.Crypto.VaultService
import VoxDesktop.Crypto.VaultUnlock
import VoxDesktop.Domain.Conversations
import VoxDesktop.Domain.Devices
import VoxDesktop.Domain.Models
import VoxDesktop.Integration.AccountRuns
import VoxDesktop.Integration.Accounts
import VoxDesktop.Integration.Answers
import VoxDesktop.Integration.AttachmentRuns
import VoxDesktop.Integration.AttachmentTickets
import VoxDesktop.Integration.Attachments
import VoxDesktop.Integration.Blobs
import VoxDesktop.Integration.Delivery
import VoxDesktop.Integration.Directory
import VoxDesktop.Integration.FakeVoxServer
import VoxDesktop.Integration.Log
import VoxDesktop.Integration.NewConversations
import VoxDesktop.Integration.Postings
import VoxDesktop.Integration.Readings
import VoxDesktop.Integration.ReferenceSystem
import VoxDesktop.Integration.Restarts
import VoxDesktop.Integration.SessionRuns
import VoxDesktop.Integration.Sessions
import VoxDesktop.Integration.Submissions
import VoxDesktop.Integration.System
import VoxDesktop.Library.Aead
import VoxDesktop.Library.Delimited
import VoxDesktop.Library.Derivation
import VoxDesktop.Library.Grouping
import VoxDesktop.Library.Hkdf
import VoxDesktop.Library.KeyChain
import VoxDesktop.Library.LamportClock
import VoxDesktop.Library.Ledger
import VoxDesktop.Library.LexicalPath
import VoxDesktop.Library.Lookups
import VoxDesktop.Library.Machine
import VoxDesktop.Library.MostRecent
import VoxDesktop.Library.PartialWalk
import VoxDesktop.Library.Radix64
import VoxDesktop.Library.Segments
import VoxDesktop.Library.Table
import VoxDesktop.Library.Tickets
import VoxDesktop.Library.Transactional
import VoxDesktop.Library.Trimming
import VoxDesktop.Library.WriteThrough
import VoxDesktop.Network.ApiDtos
import VoxDesktop.Network.AttachmentsApi
import VoxDesktop.Network.AuthApi
import VoxDesktop.Network.ConversationQueries
import VoxDesktop.Network.ConversationsApi
import VoxDesktop.Network.NetworkAccess
import VoxDesktop.Network.ParsedNumbers
import VoxDesktop.Network.RealtimeSocket
import VoxDesktop.Network.RequestPaths
import VoxDesktop.Network.SyncApi
import VoxDesktop.Network.TypedEndpoints
import VoxDesktop.Qt.AsciiText
import VoxDesktop.Qt.ByteArray
import VoxDesktop.Qt.Json
import VoxDesktop.Qt.NestedJson
import VoxDesktop.Qt.PercentEncoding
import VoxDesktop.Qt.ReferenceJson
import VoxDesktop.Qt.ReferenceNestedJson
import VoxDesktop.Qt.StringList
import VoxDesktop.Qt.Text
import VoxDesktop.Qt.Utf8
import VoxDesktop.Services.AttachmentService
import VoxDesktop.Services.AuthService
import VoxDesktop.Services.BearerToken
import VoxDesktop.Services.ConversationRefresh
import VoxDesktop.Services.ConversationService
import VoxDesktop.Services.Logout
import VoxDesktop.Services.MessageSendService
import VoxDesktop.Services.PrekeyAgreement
import VoxDesktop.Services.PullFrame
import VoxDesktop.Services.PullTermination
import VoxDesktop.Services.QueuedSends
import VoxDesktop.Services.ReferenceService
import VoxDesktop.Services.Requests
import VoxDesktop.Services.SearchFailures
import VoxDesktop.Services.SearchService
import VoxDesktop.Services.SessionDurability
import VoxDesktop.Services.Sessions
import VoxDesktop.Services.SyncBundle
import VoxDesktop.Services.SyncPull
import VoxDesktop.Services.SyncPush
import VoxDesktop.Services.SyncService
import VoxDesktop.Services.SyncVersions
import VoxDesktop.Services.VaultWrites
import VoxDesktop.Storage.AccountsRepository
import VoxDesktop.Storage.ConversationsRepository
import VoxDesktop.Storage.DevicesRepository
import VoxDesktop.Storage.FileStore
import VoxDesktop.Storage.JobAttempts
import VoxDesktop.Storage.JobsRepository
import VoxDesktop.Storage.MessageListing
import VoxDesktop.Storage.MessagesRepository
import VoxDesktop.Storage.MigrationFailures
import VoxDesktop.Storage.Migrations
import VoxDesktop.Storage.ReadBack
import VoxDesktop.Storage.SearchRepository
import VoxDesktop.Storage.SyncRepository
import VoxDesktop.Ui.CheckedUrl
import VoxDesktop.Ui.ConversationListPane
import VoxDesktop.Ui.ConversationSearch
import VoxDesktop.Ui.WelcomePage
