import ZeroRouter.Lib.Serde
import ZeroRouter.Db.Settle
import ZeroRouter.Api.Route

/-!
# The stored settlement intent

`src/router/src/db.rs` `SettlementIntent` with every field it carries: what
`SettlementIntent::new` copies out of a session, its reservation and a `UsageRecord`, the JSON
document that is persisted, and `to_record` on the way back.  `Db/Record.lean` has the part of
it that the metering tables keep, to which `lower` reduces it.

A document is written by a build of the router: a field carrying `#[serde(default)]` was added
after the first one, and an older build leaves its member out.

The rates are `f64`, and the catalog admits only finite ones; a rate is the number it denotes.
-/

namespace ZeroRouter.Stored

open ZeroRouter (Uuid Decimal Timestamp Value)
open Serde

/-! ## The record -/

/-- `openai.rs` `TaskSignature`. -/
structure TaskSignature where
  hex : String
  scheme : Int
  toolNamesSha256 : String
  deriving DecidableEq, Repr

/-- `Reservation`, with the signature that only provenance reads. -/
structure Reservation where
  reservedCostUsd : Decimal
  taskSignature : TaskSignature
  estimatorBasis : ReservationBasis
  deriving DecidableEq, Repr

/-- `RequestTelemetry`. -/
structure RequestTelemetry where
  requestedMaxTokens : Int
  stream : Bool
  promptBytes : Int
  messageCount : Int
  toolCount : Int
  candidateId : Option String
  basisRates : Option ModelRates
  sellRates : ModelRates
  finishReason : Option String
  finishReasonSource : Option String
  shapeOk : Option Bool
  usageGap : Option String
  priority : Option Priority
  byok : Option Bool
  deriving DecidableEq, Repr

/-- `AttemptRecord`. -/
structure AttemptRecord where
  attemptNo : Int
  startedAt : Timestamp
  candidateId : String
  upstreamProvider : String
  upstreamModel : String
  outcome : String
  served : Bool
  latencyMs : Int
  tokens : AttemptTokens
  tokensEstimated : Bool
  costBasisUsd : Option Decimal
  finishReason : Option String
  validatorKind : Option String
  deriving DecidableEq, Repr

/-- `UsageRecord`. -/
structure UsageRecord where
  tier : String
  upstreamProvider : String
  upstreamModel : String
  usage : OpenAiUsage
  costUsd : Decimal
  byokCatalogUsd : Option Decimal
  latencyMs : Int
  status : Int
  telemetry : RequestTelemetry
  attempts : List AttemptRecord
  deriving DecidableEq, Repr

/-! ## Keywords -/

/-- `ReservationBasis::as_str`. -/
def basisStr : ReservationBasis → String
  | .cold => "cold"
  | .learned => "learned"

/-- `ReservationBasis::from_keyword`: anything unrecognized reads as cold. -/
def basisFromKeyword (keyword : String) : ReservationBasis :=
  if keyword = "learned" then .learned else .cold

/-- `Priority::as_str`. -/
def priorityStr : Priority → String
  | .cost => "cost"
  | .balanced => "balanced"
  | .success => "success"

/-- `Priority::from_keyword`. -/
def priorityFromKeyword (keyword : String) : Option Priority :=
  if keyword = "cost" then some .cost
  else if keyword = "balanced" then some .balanced
  else if keyword = "success" then some .success
  else none

/-- `provider.rs` `UsageGap`. -/
inductive UsageGap where
  | includeUsageIgnored
  | doneMissing
  deriving DecidableEq, Repr

/-- `UsageGap::as_str`. -/
def UsageGap.asStr : UsageGap → String
  | .includeUsageIgnored => "include_usage_ignored"
  | .doneMissing => "done_missing"

/-- `UsageGap::from_keyword`. -/
def UsageGap.fromKeyword (label : String) : Option UsageGap :=
  if label = "include_usage_ignored" then some .includeUsageIgnored
  else if label = "done_missing" then some .doneMissing
  else none

def finishReasonUpstream : String := "upstream"
def finishReasonSynthetic : String := "synthetic"

/-- `finish_reason_source_from_keyword`. -/
def finishReasonSourceFromKeyword (source : String) : Option String :=
  if source = finishReasonUpstream then some finishReasonUpstream
  else if source = finishReasonSynthetic then some finishReasonSynthetic
  else none

/-! ## The payload -/

/-- `RatesPayload`. -/
structure RatesPayload where
  inputPerMtok : Option Decimal
  cachedInputPerMtok : Option Decimal
  cacheWritePerMtok : Option Decimal
  outputPerMtok : Option Decimal

/-- `TelemetryPayload`. -/
structure TelemetryPayload where
  requestedMaxTokens : Int
  stream : Bool
  promptBytes : Int
  messageCount : Int
  toolCount : Int
  candidateId : Option String
  basisRates : Option RatesPayload
  sellRates : RatesPayload
  finishReason : Option String
  finishReasonSource : Option String
  usageGap : Option String
  shapeOk : Option Bool
  priority : Option String
  byok : Option Bool

/-- `AttemptTokensPayload`. -/
structure AttemptTokensPayload where
  input : Option Nat
  cachedInput : Option Nat
  cacheWriteInput : Option Nat
  output : Option Nat

/-- `AttemptTokensPayload::default`. -/
def AttemptTokensPayload.unknown : AttemptTokensPayload := ⟨none, none, none, none⟩

/-- `AttemptPayload`. -/
structure AttemptPayload where
  attemptNo : Int
  startedAt : Timestamp
  candidateId : String
  upstreamProvider : String
  upstreamModel : String
  outcome : String
  served : Bool
  latencyMs : Int
  tokens : AttemptTokensPayload
  tokensEstimated : Bool
  costBasisUsd : Option String
  finishReason : Option String
  validatorKind : Option String

/-- `SettlementIntent`.  Money is carried as exact decimal strings. -/
structure SettlementIntent where
  version : Nat
  userId : Uuid
  requireCredits : Bool
  taskSignature : String
  taskSignatureScheme : Option Int
  toolNamesSha256 : Option String
  reservedOutputTokens : Int
  reservedCostUsd : String
  estimatorBasis : String
  tier : String
  upstreamProvider : String
  upstreamModel : String
  usage : UsagePayload
  costUsd : String
  byokCatalogUsd : Option String
  latencyMs : Int
  status : Int
  telemetry : TelemetryPayload
  attempts : List AttemptPayload

/-- The texts that types from outside the repository are written as and read from.  A rate is
    a JSON number, and `rate` is its text as the column gives it back. -/
structure Texts where
  uuid : Uuid → String
  readUuid : String → Option Uuid
  instant : Timestamp → String
  readInstant : String → Option Timestamp
  decimal : Decimal → String
  readDecimal : String → Option Decimal
  rate : Decimal → String
  readRate : String → Decimal

section
variable (texts : Texts)

/-! ## Into the payload -/

def RatesPayload.new (rates : ModelRates) : RatesPayload where
  inputPerMtok := rates.inputPerMtok
  cachedInputPerMtok := rates.cachedInputPerMtok
  cacheWritePerMtok := rates.cacheWritePerMtok
  outputPerMtok := rates.outputPerMtok

def TelemetryPayload.new (telemetry : RequestTelemetry) : TelemetryPayload where
  requestedMaxTokens := telemetry.requestedMaxTokens
  stream := telemetry.stream
  promptBytes := telemetry.promptBytes
  messageCount := telemetry.messageCount
  toolCount := telemetry.toolCount
  candidateId := telemetry.candidateId
  basisRates := telemetry.basisRates.map RatesPayload.new
  sellRates := .new telemetry.sellRates
  finishReason := telemetry.finishReason
  finishReasonSource := telemetry.finishReasonSource
  usageGap := telemetry.usageGap
  shapeOk := telemetry.shapeOk
  priority := telemetry.priority.map priorityStr
  byok := telemetry.byok

def AttemptPayload.new (attempt : AttemptRecord) : AttemptPayload where
  attemptNo := attempt.attemptNo
  startedAt := attempt.startedAt
  candidateId := attempt.candidateId
  upstreamProvider := attempt.upstreamProvider
  upstreamModel := attempt.upstreamModel
  outcome := attempt.outcome
  served := attempt.served
  latencyMs := attempt.latencyMs
  tokens :=
    { input := attempt.tokens.input
      cachedInput := attempt.tokens.cachedInput
      cacheWriteInput := attempt.tokens.cacheWriteInput
      output := attempt.tokens.output }
  tokensEstimated := attempt.tokensEstimated
  costBasisUsd := attempt.costBasisUsd.map texts.decimal
  finishReason := attempt.finishReason
  validatorKind := attempt.validatorKind

/-- `SettlementIntent::new`. -/
def SettlementIntent.new (session : UsageSession) (reservation : Reservation)
    (record : UsageRecord) : SettlementIntent where
  version := settlementIntentVersion
  userId := session.userId
  requireCredits := session.requireCredits
  taskSignature := reservation.taskSignature.hex
  taskSignatureScheme := some reservation.taskSignature.scheme
  toolNamesSha256 := some reservation.taskSignature.toolNamesSha256
  reservedOutputTokens := session.outputBound
  reservedCostUsd := texts.decimal reservation.reservedCostUsd
  estimatorBasis := basisStr reservation.estimatorBasis
  tier := record.tier
  upstreamProvider := record.upstreamProvider
  upstreamModel := record.upstreamModel
  usage := .new record.usage
  costUsd := texts.decimal record.costUsd
  byokCatalogUsd := record.byokCatalogUsd.map texts.decimal
  latencyMs := record.latencyMs
  status := record.status
  telemetry := .new record.telemetry
  attempts := record.attempts.map (AttemptPayload.new texts)

/-! ## Out of the payload -/

/-- `settlement_decimal`. -/
def settlementDecimal (value : String) (field : String) : Except SqlError Decimal :=
  match texts.readDecimal value with
  | some decimal => .ok decimal
  | none => .error (.protocol s!"settlement payload field {field} is not a decimal number")

/-- `settlement_decimal` of an optional field, transposed. -/
def optionalDecimal (value : Option String) (field : String) :
    Except SqlError (Option Decimal) :=
  match value with
  | none => .ok none
  | some value => (settlementDecimal texts value field).map some

def RatesPayload.toRates (payload : RatesPayload) : ModelRates where
  inputPerMtok := payload.inputPerMtok
  outputPerMtok := payload.outputPerMtok
  cachedInputPerMtok := payload.cachedInputPerMtok
  cacheWritePerMtok := payload.cacheWritePerMtok

/-- The telemetry `to_record` rebuilds.  A `finish_reason_source` that is missing or unknown
    is synthetic; any other keyword the ledger does not know is dropped. -/
def TelemetryPayload.toTelemetry (payload : TelemetryPayload) : RequestTelemetry where
  requestedMaxTokens := payload.requestedMaxTokens
  stream := payload.stream
  promptBytes := payload.promptBytes
  messageCount := payload.messageCount
  toolCount := payload.toolCount
  candidateId := payload.candidateId
  basisRates := payload.basisRates.map RatesPayload.toRates
  sellRates := payload.sellRates.toRates
  finishReason := payload.finishReason
  finishReasonSource :=
    (payload.finishReasonSource.bind finishReasonSourceFromKeyword).or (some finishReasonSynthetic)
  shapeOk := payload.shapeOk
  usageGap := (payload.usageGap.bind UsageGap.fromKeyword).map UsageGap.asStr
  priority := payload.priority.bind priorityFromKeyword
  byok := payload.byok

def AttemptPayload.toAttempt (attempt : AttemptPayload) : Except SqlError AttemptRecord := do
  let costBasisUsd ← optionalDecimal texts attempt.costBasisUsd "attempt cost_basis_usd"
  return {
    attemptNo := attempt.attemptNo
    startedAt := attempt.startedAt
    candidateId := attempt.candidateId
    upstreamProvider := attempt.upstreamProvider
    upstreamModel := attempt.upstreamModel
    outcome := attempt.outcome
    served := attempt.served
    latencyMs := attempt.latencyMs
    tokens :=
      { input := attempt.tokens.input
        cachedInput := attempt.tokens.cachedInput
        cacheWriteInput := attempt.tokens.cacheWriteInput
        output := attempt.tokens.output }
    tokensEstimated := attempt.tokensEstimated
    costBasisUsd
    finishReason := attempt.finishReason
    validatorKind := attempt.validatorKind }

/-- `SettlementIntent::to_record`. -/
def SettlementIntent.toRecord (intent : SettlementIntent) : Except SqlError UsageRecord := do
  let attempts ← intent.attempts.mapM (AttemptPayload.toAttempt texts)
  let costUsd ← settlementDecimal texts intent.costUsd "cost_usd"
  let byokCatalogUsd ← optionalDecimal texts intent.byokCatalogUsd "byok_catalog_usd"
  return {
    tier := intent.tier
    upstreamProvider := intent.upstreamProvider
    upstreamModel := intent.upstreamModel
    usage := intent.usage.toUsage
    costUsd
    byokCatalogUsd
    latencyMs := intent.latencyMs
    status := intent.status
    telemetry := intent.telemetry.toTelemetry
    attempts }

/-- `SettlementIntent::reserved_cost_snapshot`. -/
def SettlementIntent.reservedCostSnapshot (intent : SettlementIntent) : Except SqlError Decimal :=
  settlementDecimal texts intent.reservedCostUsd "reserved_cost_usd"

end

/-! ## The document -/

/-- The fields added after the first build, each carrying `#[serde(default)]`. -/
inductive LateField where
  | taskSignatureScheme
  | toolNamesSha256
  | estimatorBasis
  | byokCatalogUsd
  | usageCacheWrite
  | ratesCacheWrite
  | finishReasonSource
  | usageGap
  | priority
  | byok
  | attemptTokens
  | tokensCacheWrite
  deriving DecidableEq, Repr

/-- The late fields a build has. -/
abbrev Build := LateField → Bool

/-- The build under `src/`. -/
def Build.current : Build := fun _ => true

/-- What is left of an optional late field by a build that may not have had it. -/
def Build.keep (build : Build) (field : LateField) (value : Option α) : Option α :=
  if build field then value else none

section
variable (texts : Texts) (build : Build)

def UsagePayload.members (payload : UsagePayload) : List Member :=
  [⟨"prompt_tokens", .integer payload.promptTokens, true⟩,
   ⟨"cached_input_tokens", .integer payload.cachedInputTokens, true⟩,
   ⟨"cache_write_input_tokens", .integer payload.cacheWriteInputTokens, build .usageCacheWrite⟩,
   ⟨"completion_tokens", .integer payload.completionTokens, true⟩,
   ⟨"total_tokens", .integer payload.totalTokens, true⟩]

def readUsage (document : Value) : Option UsagePayload := do
  let promptTokens ← required document "prompt_tokens" (readNat 64)
  let cachedInputTokens ← required document "cached_input_tokens" (readNat 64)
  let cacheWriteInputTokens ← defaulted document "cache_write_input_tokens" 0 (readNat 64)
  let completionTokens ← required document "completion_tokens" (readNat 64)
  let totalTokens ← required document "total_tokens" (readNat 64)
  return { promptTokens, cachedInputTokens, cacheWriteInputTokens, completionTokens, totalTokens }

def rate (value : Decimal) : Value := .float (texts.rate value)

/-- An `f64`: an integer is read as the number it denotes. -/
def readRate : Value → Option Decimal
  | .float text => some (texts.readRate text)
  | .integer value => some (texts.readRate (toString value))
  | _ => none

def RatesPayload.members (payload : RatesPayload) : List Member :=
  [⟨"input_per_mtok", ofNullable (rate texts) payload.inputPerMtok, true⟩,
   ⟨"cached_input_per_mtok", ofNullable (rate texts) payload.cachedInputPerMtok, true⟩,
   ⟨"cache_write_per_mtok", ofNullable (rate texts) payload.cacheWritePerMtok,
     build .ratesCacheWrite⟩,
   ⟨"output_per_mtok", ofNullable (rate texts) payload.outputPerMtok, true⟩]

def RatesPayload.serialize (payload : RatesPayload) : Value :=
  object (payload.members texts build)

def readRates (document : Value) : Option RatesPayload := do
  -- `null` and a scalar are no rates, whatever their members would be
  let _ ← document.asObject
  let inputPerMtok ← optional document "input_per_mtok" (readRate texts)
  let cachedInputPerMtok ← optional document "cached_input_per_mtok" (readRate texts)
  let cacheWritePerMtok ← optional document "cache_write_per_mtok" (readRate texts)
  let outputPerMtok ← optional document "output_per_mtok" (readRate texts)
  return { inputPerMtok, cachedInputPerMtok, cacheWritePerMtok, outputPerMtok }

def TelemetryPayload.members (payload : TelemetryPayload) : List Member :=
  [⟨"requested_max_tokens", .integer payload.requestedMaxTokens, true⟩,
   ⟨"stream", .bool payload.stream, true⟩,
   ⟨"prompt_bytes", .integer payload.promptBytes, true⟩,
   ⟨"message_count", .integer payload.messageCount, true⟩,
   ⟨"tool_count", .integer payload.toolCount, true⟩,
   ⟨"candidate_id", ofNullable .string payload.candidateId, true⟩,
   ⟨"basis_rates", ofNullable (RatesPayload.serialize texts build) payload.basisRates, true⟩,
   ⟨"sell_rates", payload.sellRates.serialize texts build, true⟩,
   ⟨"finish_reason", ofNullable .string payload.finishReason, true⟩,
   ⟨"finish_reason_source", ofNullable .string payload.finishReasonSource,
     build .finishReasonSource⟩,
   ⟨"usage_gap", ofNullable .string payload.usageGap, build .usageGap⟩,
   ⟨"shape_ok", ofNullable .bool payload.shapeOk, true⟩,
   ⟨"priority", ofNullable .string payload.priority, build .priority⟩,
   ⟨"byok", ofNullable .bool payload.byok, build .byok⟩]

def readTelemetry (document : Value) : Option TelemetryPayload := do
  let requestedMaxTokens ← required document "requested_max_tokens" (readInt 32)
  let stream ← required document "stream" readBool
  let promptBytes ← required document "prompt_bytes" (readInt 64)
  let messageCount ← required document "message_count" (readInt 32)
  let toolCount ← required document "tool_count" (readInt 32)
  let candidateId ← optional document "candidate_id" Value.asStr
  let basisRates ← optional document "basis_rates" (readRates texts)
  let sellRates ← required document "sell_rates" (readRates texts)
  let finishReason ← optional document "finish_reason" Value.asStr
  let finishReasonSource ← optional document "finish_reason_source" Value.asStr
  let usageGap ← optional document "usage_gap" Value.asStr
  let shapeOk ← optional document "shape_ok" readBool
  let priority ← optional document "priority" Value.asStr
  let byok ← optional document "byok" readBool
  return {
    requestedMaxTokens, stream, promptBytes, messageCount, toolCount, candidateId, basisRates,
    sellRates, finishReason, finishReasonSource, usageGap, shapeOk, priority, byok }

def natural (value : Nat) : Value := .integer value

def AttemptTokensPayload.members (payload : AttemptTokensPayload) : List Member :=
  [⟨"input", ofNullable natural payload.input, true⟩,
   ⟨"cached_input", ofNullable natural payload.cachedInput, true⟩,
   ⟨"cache_write_input", ofNullable natural payload.cacheWriteInput, build .tokensCacheWrite⟩,
   ⟨"output", ofNullable natural payload.output, true⟩]

def readTokens (document : Value) : Option AttemptTokensPayload := do
  let _ ← document.asObject
  let input ← optional document "input" (readNat 64)
  let cachedInput ← optional document "cached_input" (readNat 64)
  let cacheWriteInput ← optional document "cache_write_input" (readNat 64)
  let output ← optional document "output" (readNat 64)
  return { input, cachedInput, cacheWriteInput, output }

def AttemptPayload.members (payload : AttemptPayload) : List Member :=
  [⟨"attempt_no", .integer payload.attemptNo, true⟩,
   ⟨"started_at", .string (texts.instant payload.startedAt), true⟩,
   ⟨"candidate_id", .string payload.candidateId, true⟩,
   ⟨"upstream_provider", .string payload.upstreamProvider, true⟩,
   ⟨"upstream_model", .string payload.upstreamModel, true⟩,
   ⟨"outcome", .string payload.outcome, true⟩,
   ⟨"served", .bool payload.served, true⟩,
   ⟨"latency_ms", .integer payload.latencyMs, true⟩,
   ⟨"tokens", object (payload.tokens.members build), build .attemptTokens⟩,
   ⟨"tokens_estimated", .bool payload.tokensEstimated, true⟩,
   ⟨"cost_basis_usd", ofNullable .string payload.costBasisUsd, true⟩,
   ⟨"finish_reason", ofNullable .string payload.finishReason, true⟩,
   ⟨"validator_kind", ofNullable .string payload.validatorKind, true⟩]

def AttemptPayload.serialize (payload : AttemptPayload) : Value :=
  object (payload.members texts build)

def readAttempt (document : Value) : Option AttemptPayload := do
  let attemptNo ← required document "attempt_no" (readInt 16)
  let startedAt ← required document "started_at" fun value => value.asStr.bind texts.readInstant
  let candidateId ← required document "candidate_id" Value.asStr
  let upstreamProvider ← required document "upstream_provider" Value.asStr
  let upstreamModel ← required document "upstream_model" Value.asStr
  let outcome ← required document "outcome" Value.asStr
  let served ← required document "served" readBool
  let latencyMs ← required document "latency_ms" (readInt 32)
  let tokens ← defaulted document "tokens" AttemptTokensPayload.unknown readTokens
  let tokensEstimated ← required document "tokens_estimated" readBool
  let costBasisUsd ← optional document "cost_basis_usd" Value.asStr
  let finishReason ← optional document "finish_reason" Value.asStr
  let validatorKind ← optional document "validator_kind" Value.asStr
  return {
    attemptNo, startedAt, candidateId, upstreamProvider, upstreamModel, outcome, served,
    latencyMs, tokens, tokensEstimated, costBasisUsd, finishReason, validatorKind }

def SettlementIntent.members (intent : SettlementIntent) : List Member :=
  [⟨"version", .integer intent.version, true⟩,
   ⟨"user_id", .string (texts.uuid intent.userId), true⟩,
   ⟨"require_credits", .bool intent.requireCredits, true⟩,
   ⟨"task_signature", .string intent.taskSignature, true⟩,
   ⟨"task_signature_scheme", ofNullable .integer intent.taskSignatureScheme,
     build .taskSignatureScheme⟩,
   ⟨"tool_names_sha256", ofNullable .string intent.toolNamesSha256, build .toolNamesSha256⟩,
   ⟨"reserved_output_tokens", .integer intent.reservedOutputTokens, true⟩,
   ⟨"reserved_cost_usd", .string intent.reservedCostUsd, true⟩,
   ⟨"estimator_basis", .string intent.estimatorBasis, build .estimatorBasis⟩,
   ⟨"tier", .string intent.tier, true⟩,
   ⟨"upstream_provider", .string intent.upstreamProvider, true⟩,
   ⟨"upstream_model", .string intent.upstreamModel, true⟩,
   ⟨"usage", object (UsagePayload.members build intent.usage), true⟩,
   ⟨"cost_usd", .string intent.costUsd, true⟩,
   ⟨"byok_catalog_usd", ofNullable .string intent.byokCatalogUsd, build .byokCatalogUsd⟩,
   ⟨"latency_ms", .integer intent.latencyMs, true⟩,
   ⟨"status", .integer intent.status, true⟩,
   ⟨"telemetry", object (intent.telemetry.members texts build), true⟩,
   ⟨"attempts", .array (intent.attempts.map (AttemptPayload.serialize texts build)), true⟩]

/-- The document a build writes of an intent. -/
def SettlementIntent.serialize (intent : SettlementIntent) : Value :=
  object (intent.members texts build)

/-- The intent this build reads in a document.  It passes over members it does not know. -/
def readIntent (document : Value) : Option SettlementIntent := do
  let version ← required document "version" (readNat 8)
  let userId ← required document "user_id" fun value => value.asStr.bind texts.readUuid
  let requireCredits ← required document "require_credits" readBool
  let taskSignature ← required document "task_signature" Value.asStr
  let taskSignatureScheme ← optional document "task_signature_scheme" (readInt 16)
  let toolNamesSha256 ← optional document "tool_names_sha256" Value.asStr
  let reservedOutputTokens ← required document "reserved_output_tokens" (readInt 32)
  let reservedCostUsd ← required document "reserved_cost_usd" Value.asStr
  let estimatorBasis ← defaulted document "estimator_basis" (basisStr .cold) Value.asStr
  let tier ← required document "tier" Value.asStr
  let upstreamProvider ← required document "upstream_provider" Value.asStr
  let upstreamModel ← required document "upstream_model" Value.asStr
  let usage ← required document "usage" readUsage
  let costUsd ← required document "cost_usd" Value.asStr
  let byokCatalogUsd ← optional document "byok_catalog_usd" Value.asStr
  let latencyMs ← required document "latency_ms" (readInt 32)
  let status ← required document "status" (readInt 16)
  let telemetry ← required document "telemetry" (readTelemetry texts)
  let attempts ← required document "attempts" (readArray (readAttempt texts))
  return {
    version, userId, requireCredits, taskSignature, taskSignatureScheme, toolNamesSha256,
    reservedOutputTokens, reservedCostUsd, estimatorBasis, tier, upstreamProvider,
    upstreamModel, usage, costUsd, byokCatalogUsd, latencyMs, status, telemetry, attempts }

end

/-! ## Settlement -/

/-- The attempt the walk ledger keeps. -/
def AttemptRecord.lower (attempt : AttemptRecord) : ZeroRouter.AttemptRecord where
  attemptNo := attempt.attemptNo
  startedAt := attempt.startedAt
  candidateId := attempt.candidateId
  upstreamProvider := attempt.upstreamProvider
  upstreamModel := attempt.upstreamModel
  outcome := attempt.outcome
  served := attempt.served
  latencyMs := attempt.latencyMs
  tokens := attempt.tokens
  tokensEstimated := attempt.tokensEstimated
  costBasisUsd := attempt.costBasisUsd

/-- The intent the metering tables are written from. -/
def SettlementIntent.lower (intent : SettlementIntent) (record : UsageRecord)
    (reservedCostUsd : Decimal) : ZeroRouter.SettlementIntent where
  version := intent.version
  userId := intent.userId
  requireCredits := intent.requireCredits
  reservedOutputTokens := intent.reservedOutputTokens
  reservedCostUsd := reservedCostUsd
  estimatorBasis := basisFromKeyword intent.estimatorBasis
  tier := record.tier
  upstreamProvider := record.upstreamProvider
  upstreamModel := record.upstreamModel
  usage := intent.usage
  costUsd := record.costUsd
  byokCatalogUsd := record.byokCatalogUsd
  latencyMs := record.latencyMs
  status := record.status
  byok := record.telemetry.byok
  attempts := record.attempts.map AttemptRecord.lower

/-- `RequestTelemetry::cost_basis`. -/
def RequestTelemetry.costBasis (telemetry : RequestTelemetry) (record : UsageRecord) :
    Option Decimal :=
  match record.attempts.find? (·.served) with
  | none => telemetry.basisRates.bind fun rates => usageCost rates record.usage
  | some served => served.costBasisUsd

/-- The columns of the settled row and of its attempts that nothing reads back. -/
structure Provenance where
  candidateId : Option String
  costBasisUsd : Option Decimal
  sellRates : ModelRates
  basisRates : Option ModelRates
  finishReason : Option String
  finishReasonSource : Option String
  requestedMaxTokens : Int
  stream : Bool
  promptBytes : Int
  messageCount : Int
  toolCount : Int
  taskSignature : String
  shapeOk : Option Bool
  taskSignatureScheme : Option Int
  toolNamesSha256 : Option String
  priority : Option String
  usageGap : Option String
  attempts : List (Option String × Option String)
  deriving DecidableEq, Repr

def SettlementIntent.provenance (intent : SettlementIntent) (record : UsageRecord) :
    Provenance where
  candidateId := record.telemetry.candidateId
  costBasisUsd := record.telemetry.costBasis record
  sellRates := record.telemetry.sellRates
  basisRates := record.telemetry.basisRates
  finishReason := record.telemetry.finishReason
  -- a source stands only beside a reason
  finishReasonSource := record.telemetry.finishReason.bind fun _ =>
    record.telemetry.finishReasonSource
  requestedMaxTokens := record.telemetry.requestedMaxTokens
  stream := record.telemetry.stream
  promptBytes := record.telemetry.promptBytes
  messageCount := record.telemetry.messageCount
  toolCount := record.telemetry.toolCount
  taskSignature := intent.taskSignature
  shapeOk := record.telemetry.shapeOk
  taskSignatureScheme := intent.taskSignatureScheme
  toolNamesSha256 := intent.toolNamesSha256
  priority := record.telemetry.priority.map priorityStr
  usageGap := record.telemetry.usageGap
  attempts := record.attempts.map fun attempt => (attempt.finishReason, attempt.validatorKind)

/-- What a settle transaction leaves: how it ended, the tables, and the columns they leave out,
    which are written when it settled. -/
structure Settlement where
  step : SettleStep
  db : Db
  provenance : Provenance

/-- `settle_once` of a stored intent. -/
def settleOnce (texts : Texts) (db : Db) (now : Timestamp) (reservationId apiKeyId : Uuid)
    (intent : SettlementIntent) : Except SqlError Settlement := do
  let record ← intent.toRecord texts
  let reservedCostUsd ← intent.reservedCostSnapshot texts
  let (step, settled) ←
    db.settleOnce now reservationId apiKeyId (intent.lower record reservedCostUsd)
  return { step, db := settled, provenance := intent.provenance record }

end ZeroRouter.Stored
