import ZeroRouter.Lib.Table
import ZeroRouter.Lib.Rollup
import ZeroRouter.Lib.Run
import ZeroRouter.Lib.Civil
import ZeroRouter.Lib.Allowance
import ZeroRouter.Lib.Journal
import ZeroRouter.Lib.JournalRuns
import ZeroRouter.Db.Record
import ZeroRouter.Byok
import ZeroRouter.Db.Schema
import ZeroRouter.Db.Ledger
import ZeroRouter.Db.Rollups
import ZeroRouter.Db.Admission
import ZeroRouter.Db.Settle
import ZeroRouter.Db.Operator
import ZeroRouter.Estimator
import ZeroRouter.Billing
import ZeroRouter.Json
import ZeroRouter.Stripe.Pricing
import ZeroRouter.Proofs.DepositFee
import ZeroRouter.Stripe.Webhook
import ZeroRouter.Stripe.System
import ZeroRouter.Stripe.Checkout
import ZeroRouter.Stripe.Portal
import ZeroRouter.Reversal
import ZeroRouter.System
import ZeroRouter.Autopay
import ZeroRouter.Billing.System
import ZeroRouter.Billing.Standing
import ZeroRouter.Proofs.AutopayOperations
import ZeroRouter.Proofs.Standing
import ZeroRouter.Proofs.Meeting
import ZeroRouter.Proofs.Reversal
import ZeroRouter.Proofs.Balances
import ZeroRouter.Proofs.Converge
import ZeroRouter.Tax
import ZeroRouter.Writers
import ZeroRouter.Migration
import ZeroRouter.Windows
import ZeroRouter.Redemption.Enrollment
import ZeroRouter.Redemption.Periods
import ZeroRouter.Redemption.DryRun
import ZeroRouter.Proofs.Operations
import ZeroRouter.Proofs.Change
import ZeroRouter.Proofs.Invariant
import ZeroRouter.Proofs.Isolation
import ZeroRouter.Proofs.Charging
import ZeroRouter.Proofs.Lifecycle
import ZeroRouter.Proofs.Totals
import ZeroRouter.Proofs.Rollout
import ZeroRouter.Proofs.Telescoping
import ZeroRouter.Proofs.Encumbrance
import ZeroRouter.Proofs.Prepaid
import ZeroRouter.Proofs.Process
import ZeroRouter.Proofs.Tax
import ZeroRouter.Proofs.Ledger
import ZeroRouter.Proofs.Ceilings
import ZeroRouter.Proofs.Concurrency
import ZeroRouter.Proofs.Waiver
import ZeroRouter.Proofs.Purchase
import ZeroRouter.Proofs.SessionForm
import ZeroRouter.Proofs.Checkout
import ZeroRouter.Proofs.Corroboration
import ZeroRouter.Proofs.Windows
import ZeroRouter.Proofs.Enrollment
import ZeroRouter.Proofs.Periods
import ZeroRouter.Proofs.Collection
import ZeroRouter.Proofs.DryRun
import ZeroRouter.Proofs.Switch
import ZeroRouter.Lib.Loop
import ZeroRouter.Lib.ReadCommitted
import ZeroRouter.Lib.SortedMap
import ZeroRouter.Lib.Stable
import ZeroRouter.Api.Pricing
import ZeroRouter.Api.Retry
import ZeroRouter.Api.Health
import ZeroRouter.Api.Route
import ZeroRouter.Api.Metering
import ZeroRouter.Api.Schedule
import ZeroRouter.Api.Reservation
import ZeroRouter.Api.Walk
import ZeroRouter.Api.Stream
import ZeroRouter.Proofs.Walk
import ZeroRouter.Proofs.Settled
import ZeroRouter.Proofs.Skips
import ZeroRouter.Proofs.Fallback
import ZeroRouter.Proofs.Arming
import ZeroRouter.Proofs.Surprise
import ZeroRouter.Proofs.Delivery
import ZeroRouter.Proofs.Assembly
import ZeroRouter.Proofs.Reservation
import ZeroRouter.Config.Catalog
import ZeroRouter.Config.Validate
import ZeroRouter.Config.Routes
import ZeroRouter.Wire.Message
import ZeroRouter.Wire.ChatCompletions
import ZeroRouter.Wire.Responses
import ZeroRouter.Wire.Anthropic
import ZeroRouter.Api.Inference
import ZeroRouter.Api.Process
import ZeroRouter.Proofs.Catalog
import ZeroRouter.Proofs.Margin
import ZeroRouter.Proofs.Listing
import ZeroRouter.Proofs.Pipeline
import ZeroRouter.Proofs.Retention
import ZeroRouter.Proofs.FreeLane
import ZeroRouter.Keys.Store
import ZeroRouter.Keys.Operations
import ZeroRouter.Proofs.KeyStore
import ZeroRouter.Proofs.KeyOperations
import ZeroRouter.Proofs.DeviceGrants
import ZeroRouter.Proofs.KeySight
import ZeroRouter.Proofs.SelfService
import ZeroRouter.Proofs.Rounding
import ZeroRouter.Proofs.Bill
import ZeroRouter.Proofs.ColdReservation
import ZeroRouter.Proofs.Dearest
import ZeroRouter.Proofs.DepositPricing
import ZeroRouter.Proofs.Quarantine
import ZeroRouter.Api.Bill
import ZeroRouter.Lib.Serde
import ZeroRouter.Db.Payload
import ZeroRouter.Proofs.Storage
import ZeroRouter.Stripe.Status
import ZeroRouter.Proofs.Reuse
import ZeroRouter.Stripe.Sweep
import ZeroRouter.Proofs.Sweep
import ZeroRouter.Stripe.Autopay
import ZeroRouter.Billing.Recharge
import ZeroRouter.Proofs.Intents
import ZeroRouter.Proofs.Terms
import ZeroRouter.Proofs.Recharge
import ZeroRouter.Proofs.Fate
import ZeroRouter.Proofs.Withheld
import ZeroRouter.Oidc
import ZeroRouter.Proofs.Logins
import ZeroRouter.Proofs.OneIdentity
import ZeroRouter.Lib.Incremental
import ZeroRouter.Lib.Utf8
import ZeroRouter.Wire.Stream
import ZeroRouter.Wire.Sse
import ZeroRouter.Proofs.Sse
import ZeroRouter.Lib.BigEndian
import ZeroRouter.Wire.EventStream
import ZeroRouter.Proofs.EventStream
import ZeroRouter.Proofs.Turns
import ZeroRouter.Wire.Caching
import ZeroRouter.Proofs.Breakpoints
import ZeroRouter.Proofs.Cogs
import ZeroRouter.Proofs.Images
import ZeroRouter.Wire.Bound
import ZeroRouter.Proofs.PromptBound
import ZeroRouter.Wire.Upstream
import ZeroRouter.Proofs.Upstream
import ZeroRouter.Wire.AnthropicStream
import ZeroRouter.Proofs.AnthropicUsage
import ZeroRouter.Wire.ChatStream
import ZeroRouter.Proofs.ChatStream
import ZeroRouter.Proofs.ChatTools
import ZeroRouter.Proofs.ChatAnswer
import ZeroRouter.GcpAuth
import ZeroRouter.Proofs.TokenCache
import ZeroRouter.Auth
import ZeroRouter.Proofs.KeyCache
import ZeroRouter.Proofs.BoundedWalk
import ZeroRouter.Lib.Lexicographic
import ZeroRouter.Api.Selection
import ZeroRouter.Proofs.Selection
import ZeroRouter.Lib.Binary64
import ZeroRouter.Api.Backoff
import ZeroRouter.Proofs.Backoff
import ZeroRouter.Discover
import ZeroRouter.Proofs.Discover
import ZeroRouter.Lib.ByteOffset
import ZeroRouter.Lib.Substitute
import ZeroRouter.Lib.Occurrence
import ZeroRouter.Retention
import ZeroRouter.Proofs.Normalize
import ZeroRouter.Proofs.Evidence
import ZeroRouter.Drift
import ZeroRouter.Lib.Positional
import ZeroRouter.Corroborate
import ZeroRouter.Proofs.PerMtok
import ZeroRouter.Lib.Redact
import ZeroRouter.Api.Redaction
import ZeroRouter.Proofs.Redaction
import ZeroRouter.Proofs.Drift
import ZeroRouter.Api.Responses
import ZeroRouter.Wire.ResponsesStream
import ZeroRouter.Proofs.ResponsesStream
import ZeroRouter.Proofs.AutopaySteps
import ZeroRouter.Proofs.AutopayCredits
import ZeroRouter.Lib.KeyedMap
import ZeroRouter.Api.Estimation
import ZeroRouter.Proofs.Estimation
import ZeroRouter.Proofs.Dialects
import ZeroRouter.Proofs.Alone
