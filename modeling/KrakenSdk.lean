import KrakenSdk.Conn.Timers
import KrakenSdk.Conn.ReconnectCap
import KrakenSdk.Conn.Waiters
import KrakenSdk.Conn.WsRequests
import KrakenSdk.Conn.InFlight
import KrakenSdk.Conn.RegistryCoherence
import KrakenSdk.Conn.RequestLife
import KrakenSdk.Conn.RegistryAccounting
import KrakenSdk.Conn.BookRecovery
import KrakenSdk.Dispatch.DropOldestRing
import KrakenSdk.Rest.NonceOrder
import KrakenSdk.Dispatch.HandlerRegistry
import KrakenSdk.Rest.Reconciliation
import KrakenSdk.Dispatch.FrameRouting
import KrakenSdk.Dispatch.UpgradeOutcomes
import KrakenSdk.Dispatch.SubscriptionReplay
import KrakenSdk.Dispatch.CorrelatedAwait
import KrakenSdk.Dispatch.MissedEdges
import KrakenSdk.Book.Window
import KrakenSdk.Book.Checksum
import KrakenSdk.RateLimit.Trading
import KrakenSdk.Book.EmptyLevels
import KrakenSdk.Conn.MirrorRows
import KrakenSdk.Dispatch.ArmRegistry
import KrakenSdk.Dispatch.SubAck
import KrakenSdk.Dispatch.GapWindow
import KrakenSdk.Dispatch.SendReady
import KrakenSdk.Dispatch.ResubscribeWork
import KrakenSdk.Dispatch.HandshakeStall
import KrakenSdk.Dispatch.CompletionLedger
import KrakenSdk.Dispatch.AuthSubscriptions
import KrakenSdk.Conn.RateBudget
import KrakenSdk.Dispatch.Openings
import KrakenSdk.Dispatch.PendingTeardowns
import KrakenSdk.RateLimit.Refund
import KrakenSdk.Rest.RetryBudget
import KrakenSdk.Trade.RateLimitCodes
import KrakenSdk.Trade.TimeSpec
import KrakenSdk.Trade.Encodings
import KrakenSdk.Trade.Batch
import KrakenSdk.Trade.Executors
import KrakenSdk.Trade.BatchRows
import KrakenSdk.Trade.UnsentCharge
import KrakenSdk.Trade.SafeRetry
import KrakenSdk.Account.Balances
import KrakenSdk.Conn.SubscribeIndex
import KrakenSdk.Trade.OrderOutcomes
import KrakenSdk.Lib.OptionalFields
import KrakenSdk.Types.SymbolCase
import KrakenSdk.Lib.Calendar
import KrakenSdk.Lib.Utf8
import KrakenSdk.Lib.DecayingLevel
import KrakenSdk.RateLimit.Api
import KrakenSdk.RateLimit.AdvisedWait
import KrakenSdk.Lib.LruCache
import KrakenSdk.RateLimit.ClOrdIdIndex
import KrakenSdk.Lib.TomlText
import KrakenSdk.Build.Interpolation
import KrakenSdk.Build.TomlInterpolation
import KrakenSdk.Trade.Rfc3339
import KrakenSdk.Auth.FormBody
import KrakenSdk.Trade.ReplyAgreement
import KrakenSdk.Dispatch.SequenceGaps
import KrakenSdk.Dispatch.FanOutDelivery
import KrakenSdk.Dispatch.FanOutAccounts
import KrakenSdk.Build.RuntimeKnobs
import KrakenSdk.Auth.TokenLifecycle
import KrakenSdk.Lib.Base64
import KrakenSdk.Auth.Signing
import KrakenSdk.Dispatch.TimerArm
import KrakenSdk.Lib.Mpsc
import KrakenSdk.Transport.WsSocket
import KrakenSdk.Trade.Cancel
import KrakenSdk.Conn.ReadModels
import KrakenSdk.Market.Tickers
import KrakenSdk.Lib.WordMix
import KrakenSdk.Jitter.SplitMix64
import KrakenSdk.Conn.Closing
import KrakenSdk.Dispatch.Refinement
import KrakenSdk.Dispatch.ClientClose
