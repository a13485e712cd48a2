import FlashTicketing.Table
import FlashTicketing.Checked
import FlashTicketing.Transition
import FlashTicketing.Latest
import FlashTicketing.OrderedDict
import FlashTicketing.Cumulative
import FlashTicketing.Intervals
import FlashTicketing.Rewriting
import FlashTicketing.Raising
import FlashTicketing.PostgresSchema
import FlashTicketing.PostgresTransactions
import FlashTicketing.PostgresChanges
import FlashTicketing.PostgresEffects
import FlashTicketing.PostgresRun
import FlashTicketing.PostgresInvariant
import FlashTicketing.PostgresRecords
import FlashTicketing.PostgresConsumer
import FlashTicketing.BookingSafety
import FlashTicketing.HoldExclusivity
import FlashTicketing.PaymentInvariant
import FlashTicketing.PaymentSettlement
import FlashTicketing.OrderLifecycle
import FlashTicketing.Fulfilment
import FlashTicketing.OutboxPublisher
import FlashTicketing.SeatMap
import FlashTicketing.EntityTags
import FlashTicketing.BodyCache
import FlashTicketing.BodyCacheLimits
import FlashTicketing.SeatShield
import FlashTicketing.HoldAdmission
import FlashTicketing.ReconciliationSchedule
import FlashTicketing.ReconciliationFencing
import FlashTicketing.SeatProjection
import FlashTicketing.SeatRefresh
import FlashTicketing.DirtySeats
import FlashTicketing.SeatAnnouncements
import FlashTicketing.MapMirror
import FlashTicketing.SeatMerge
import FlashTicketing.SeatReaders
import FlashTicketing.Convergence
import FlashTicketing.ReservationIntake
import FlashTicketing.CommandReplay
import FlashTicketing.IntakeAtomicity
import FlashTicketing.InterruptedPut
import FlashTicketing.SeatDeltas
import FlashTicketing.IdempotencyKeys
import FlashTicketing.HoldPaths
import FlashTicketing.AvailabilityTags
import FlashTicketing.RedisFirst
import FlashTicketing.RedisFirstEffects
import FlashTicketing.ProvisionalExclusivity
import FlashTicketing.CommandDurability
import FlashTicketing.CommandDelivery
import FlashTicketing.HoldAudit
import FlashTicketing.LeaseBoundary
import FlashTicketing.FailedCommands
import FlashTicketing.HistogramReducers
import FlashTicketing.Redaction
import FlashTicketing.CapacityStage
import FlashTicketing.StageTeardown
import FlashTicketing.Simulation
import FlashTicketing.Allocation
import FlashTicketing.BoxOffice
import FlashTicketing.Ledger
import FlashTicketing.EventDelivery
import FlashTicketing.PaymentWebhook
import FlashTicketing.PaymentSimulator
import FlashTicketing.ConsumerGroup
import FlashTicketing.CommandStreams
import FlashTicketing.CommandBacklog
import FlashTicketing.PooledTransactions
import FlashTicketing.PostgresDriver
import FlashTicketing.Significant
