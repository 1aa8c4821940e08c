import Rustasea.Ai.McpResponses
import Rustasea.Ai.McpServer
import Rustasea.App.ChallengeThrottle
import Rustasea.App.ResetTokens
import Rustasea.Auth.AuthenticatorData
import Rustasea.Auth.GuardRegistry
import Rustasea.Auth.LimiterIsolation
import Rustasea.Auth.PasskeyCounters
import Rustasea.Auth.RbacCache
import Rustasea.Auth.Totp
import Rustasea.Auth.SessionLifetime
import Rustasea.Auth.ThrottleLayer
import Rustasea.Authlog.NewDevices
import Rustasea.Broadcast.PusherAuth
import Rustasea.Broadcast.RedisFanOut
import Rustasea.Cache.ContextKeys
import Rustasea.Cache.CounterCalls
import Rustasea.Cache.LockExclusion
import Rustasea.Cache.TtlAgreement
import Rustasea.Events.ListenerJobs
import Rustasea.Excel.SheetImport
import Rustasea.Excel.StreamedExport
import Rustasea.Foundation.CycleNames
import Rustasea.I18n.PluralForms
import Rustasea.Jsonapi.CompoundDocument
import Rustasea.Logging.LogWindow
import Rustasea.Logging.SentryScrub
import Rustasea.Modules.Manifest
import Rustasea.Mongo.FilterMeaning
import Rustasea.Orm.ActivityBatches
import Rustasea.Orm.CachedReads
import Rustasea.Orm.CastRoundTrip
import Rustasea.Orm.EagerAgreement
import Rustasea.Orm.IdWindows
import Rustasea.Orm.MutationCache
import Rustasea.Orm.Naming
import Rustasea.Orm.Pagination
import Rustasea.Orm.RawSql
import Rustasea.Orm.Relations
import Rustasea.Orm.RestoreHistory
import Rustasea.Orm.RollbackProgress
import Rustasea.Orm.RowChunks
import Rustasea.Orm.ScopeRequests
import Rustasea.Orm.SlugResaves
import Rustasea.Orm.TimestampHistory
import Rustasea.Orm.UrlRoundTrip
import Rustasea.Queue.BatchOutcomes
import Rustasea.Queue.BatchStatements
import Rustasea.Queue.DelayedDrivers
import Rustasea.Queue.Delays
import Rustasea.Queue.LeaseExpiry
import Rustasea.Queue.LeaseReturn
import Rustasea.Queue.QueueSizes
import Rustasea.Routing.GuardPairing
import Rustasea.Routing.LinkRoundTrip
import Rustasea.Routing.RouteOverlap
import Rustasea.Schedule.Builder
import Rustasea.Schedule.CronAcceptance
import Rustasea.Schedule.TickRuns
import Rustasea.Storage.Confinement
import Rustasea.Storage.FailedDeletes
import Rustasea.Storage.LinkCreation
import Rustasea.Storage.ReadThrough
import Rustasea.Validation.MembershipRules
