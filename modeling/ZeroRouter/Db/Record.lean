import Mathlib.Data.Rat.Init
import Mathlib.Algebra.Order.Field.Rat

/-!
# Values the metering code passes around

The Rust types of `src/router/src/db.rs` and `src/router/src/openai.rs` that
admission and settlement read.  Fields that are only copied from a request into
telemetry columns, and that no modelled function inspects, are left out.

Money is an exact rational: `NUMERIC` has no fixed scale and the charges the
code computes are sums and products of decimals.  Identifiers are opaque, so a
`Uuid` is a number; instants are microseconds since the epoch, the resolution of
`TIMESTAMPTZ`.
-/

namespace ZeroRouter

abbrev Uuid := Nat
abbrev Decimal := ℚ
abbrev Timestamp := Int

/-- The largest magnitude `rust_decimal` represents, `2 ^ 96 - 1`; its checked
    operators return `None` beyond it. -/
def decimalMax : Decimal := 79228162514264337593543950335

/-- `Decimal::checked_mul`, for factors whose product fits the scale. -/
def checkedMul (a b : Decimal) : Option Decimal :=
  if |a * b| ≤ decimalMax then some (a * b) else none

def i32Max : Int := 2147483647
def i64Max : Int := 9223372036854775807
def i64Min : Int := -9223372036854775808

/-- Unicode `White_Space`, what `str::trim` removes. -/
def isWhiteSpace (c : Char) : Bool :=
  let n := c.toNat
  (9 ≤ n && n ≤ 13) || n = 0x20 || n = 0x85 || n = 0xA0 || n = 0x1680 ||
    (0x2000 ≤ n && n ≤ 0x200A) || n = 0x2028 || n = 0x2029 || n = 0x202F || n = 0x205F ||
    n = 0x3000

/-- `str::trim`. -/
def trim (text : String) : String :=
  String.ofList
    ((text.toList.dropWhile isWhiteSpace).reverse.dropWhile isWhiteSpace).reverse

/-- `sqlx::Error`, as far as the callers tell its cases apart. -/
inductive SqlError where
  | checkViolation
  | uniqueViolation
  | foreignKeyViolation
  | raised (message : String)
  | rowNotFound
  | protocol (message : String)
  deriving DecidableEq, Repr

/-! ## Usage -/

structure PromptTokenDetails where
  cachedTokens : Nat
  cacheWriteTokens : Nat
  deriving DecidableEq, Repr

structure OpenAiUsage where
  promptTokens : Nat
  completionTokens : Nat
  totalTokens : Nat
  promptTokensDetails : Option PromptTokenDetails
  deriving DecidableEq, Repr

def OpenAiUsage.cachedInputTokens (usage : OpenAiUsage) : Nat :=
  usage.promptTokensDetails.elim 0 (·.cachedTokens)

def OpenAiUsage.cacheWriteTokens (usage : OpenAiUsage) : Nat :=
  usage.promptTokensDetails.elim 0 (·.cacheWriteTokens)

structure AttemptTokens where
  input : Option Nat
  cachedInput : Option Nat
  cacheWriteInput : Option Nat
  output : Option Nat
  deriving DecidableEq, Repr

/-- Every dimension the attempt was billed in is known. -/
def AttemptTokens.isComplete (tokens : AttemptTokens) : Bool :=
  tokens.input.isSome && tokens.cachedInput.isSome && tokens.cacheWriteInput.isSome &&
    tokens.output.isSome

/-- One upstream call of a walk. -/
structure AttemptRecord where
  attemptNo : Int
  startedAt : Timestamp
  candidateId : String
  upstreamProvider : String
  upstreamModel : String
  outcome : String
  served : Bool
  latencyMs : Int
  tokens : AttemptTokens
  tokensEstimated : Bool
  costBasisUsd : Option Decimal
  deriving DecidableEq, Repr

def AttemptRecord.cogsIsMeasured (attempt : AttemptRecord) : Bool :=
  attempt.costBasisUsd.isSome && attempt.tokens.isComplete && !attempt.tokensEstimated

/-- What a finished request hands to settlement. -/
structure UsageRecord where
  tier : String
  upstreamProvider : String
  upstreamModel : String
  usage : OpenAiUsage
  costUsd : Decimal
  byokCatalogUsd : Option Decimal
  latencyMs : Int
  status : Int
  byok : Option Bool
  attempts : List AttemptRecord
  deriving DecidableEq, Repr

/-- `AttemptCogs`: the losing attempts' cost, and whether it is a total or only
    a lower bound. -/
structure AttemptCogs where
  total : Option Decimal
  complete : Option Bool
  deriving DecidableEq, Repr

def AttemptCogs.summarize (attempts : List AttemptRecord) : AttemptCogs :=
  if attempts.isEmpty then
    { total := none, complete := none }
  else
    let losing := attempts.filter fun attempt => !attempt.served
    { total := some (losing.map fun attempt => attempt.costBasisUsd.getD 0).sum
      complete := some (losing.all AttemptRecord.cogsIsMeasured) }

/-! ## Sessions -/

/-- Whether a session holds a reservation (`db.rs` `MeteringLane`). -/
inductive MeteringLane where
  | reserved
  | free
  deriving DecidableEq, Repr

/-- Which of the offered sizings a reservation was made with. -/
inductive ReservationBasis where
  | cold
  | learned
  deriving DecidableEq, Repr

structure ReservationSize where
  totalTokens : Int
  outputTokens : Int
  costUsd : Decimal
  deriving DecidableEq, Repr

structure ReservationSizing where
  learned : Option ReservationSize
  full : ReservationSize
  deriving DecidableEq, Repr

def ReservationSizing.cold (full : ReservationSize) : ReservationSizing :=
  { learned := none, full }

structure ByokReservation where
  catalogBasis : Option Decimal
  whollyByok : Bool
  deriving DecidableEq, Repr

/-- The key the authenticator resolved, with the owner it cached. -/
structure AuthenticatedKey where
  id : Uuid
  userId : Uuid
  deriving DecidableEq, Repr

structure Reservation where
  reservedCostUsd : Decimal
  estimatorBasis : ReservationBasis
  deriving DecidableEq, Repr

/-- An admitted request; `reservation` is `none` on the free lane. -/
structure UsageSession where
  requestId : Uuid
  apiKeyId : Uuid
  userId : Uuid
  requireCredits : Bool
  outputBound : Int
  reservation : Option Reservation
  deriving DecidableEq, Repr

/-- Why admission refused (`UsageAdmission` but for `Allowed`). -/
inductive Refusal where
  | unauthorized
  | spendExceeded
  | velocityExceeded
  | insufficientCredits
  | accountFrozen
  | keyCreditLimitExceeded
  deriving DecidableEq, Repr

inductive UsageAdmission where
  | allowed (session : UsageSession)
  | refused (reason : Refusal)
  deriving DecidableEq, Repr

/-! ## Settlement intents -/

def settlementIntentVersion : Nat := 1

/-- `UsagePayload`: the usage as an intent stores it. -/
structure UsagePayload where
  promptTokens : Nat
  cachedInputTokens : Nat
  cacheWriteInputTokens : Nat
  completionTokens : Nat
  totalTokens : Nat
  deriving DecidableEq, Repr

def UsagePayload.new (usage : OpenAiUsage) : UsagePayload where
  promptTokens := usage.promptTokens
  cachedInputTokens := usage.cachedInputTokens
  cacheWriteInputTokens := usage.cacheWriteTokens
  completionTokens := usage.completionTokens
  totalTokens := usage.totalTokens

def UsagePayload.toUsage (payload : UsagePayload) : OpenAiUsage where
  promptTokens := payload.promptTokens
  completionTokens := payload.completionTokens
  totalTokens := payload.totalTokens
  promptTokensDetails :=
    if payload.cachedInputTokens > 0 ∨ payload.cacheWriteInputTokens > 0 then
      some
        { cachedTokens := payload.cachedInputTokens
          cacheWriteTokens := payload.cacheWriteInputTokens }
    else none

/-- `db.rs` `SettlementIntent`.  Its decimal strings are modelled by the numbers
    they denote. -/
structure SettlementIntent where
  version : Nat
  userId : Uuid
  requireCredits : Bool
  reservedOutputTokens : Int
  reservedCostUsd : Decimal
  estimatorBasis : ReservationBasis
  tier : String
  upstreamProvider : String
  upstreamModel : String
  usage : UsagePayload
  costUsd : Decimal
  byokCatalogUsd : Option Decimal
  latencyMs : Int
  status : Int
  byok : Option Bool
  attempts : List AttemptRecord
  deriving DecidableEq, Repr

/-- `SettlementIntent::new`. -/
def SettlementIntent.new (session : UsageSession) (reservation : Reservation)
    (record : UsageRecord) : SettlementIntent where
  version := settlementIntentVersion
  userId := session.userId
  requireCredits := session.requireCredits
  reservedOutputTokens := session.outputBound
  reservedCostUsd := reservation.reservedCostUsd
  estimatorBasis := reservation.estimatorBasis
  tier := record.tier
  upstreamProvider := record.upstreamProvider
  upstreamModel := record.upstreamModel
  usage := .new record.usage
  costUsd := record.costUsd
  byokCatalogUsd := record.byokCatalogUsd
  latencyMs := record.latencyMs
  status := record.status
  byok := record.byok
  attempts := record.attempts

/-- `SettlementIntent::to_record`. -/
def SettlementIntent.toRecord (intent : SettlementIntent) : UsageRecord where
  tier := intent.tier
  upstreamProvider := intent.upstreamProvider
  upstreamModel := intent.upstreamModel
  usage := intent.usage.toUsage
  costUsd := intent.costUsd
  byokCatalogUsd := intent.byokCatalogUsd
  latencyMs := intent.latencyMs
  status := intent.status
  byok := intent.byok
  attempts := intent.attempts

/-- The JSON of the `settlement_intent` column, by what this build's reader makes
    of it.  An unreadable payload may still show a `cost_usd` to the
    pattern-guarded operator queries. -/
inductive SettlementPayload where
  | readable (intent : SettlementIntent)
  | unreadable (error : String) (costUsd : Option Decimal)
  deriving DecidableEq, Repr

/-- `settlement_intent->>'cost_usd'` under the digits-only guard, which a
    negative amount does not match. -/
def SettlementPayload.owedCostUsd : SettlementPayload → Option Decimal
  | .readable intent => if 0 ≤ intent.costUsd then some intent.costUsd else none
  | .unreadable _ costUsd => costUsd

/-- Why the recovery passes will not replay a payload; `none` for one they will. -/
def SettlementPayload.readIntent : SettlementPayload → Except String SettlementIntent
  | .readable intent =>
      if intent.version = settlementIntentVersion then .ok intent
      else .error s!"unsupported settlement payload version {intent.version}"
  | .unreadable error _ => .error s!"settlement payload is unreadable: {error}"

end ZeroRouter
