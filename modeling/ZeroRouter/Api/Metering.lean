import ZeroRouter.Api.Route
import ZeroRouter.Api.Retry

/-!
# Recording attempts and settling a walk

`src/router/src/api.rs`: `build_attempt`, `persist_usage` and the streaming
billing rule of `StreamDelivery`.  What a walk hands to `persist_usage` is a
`SettleCall`; `SettleCall.record` is the usage record it is priced into.
-/

namespace ZeroRouter

def u64Max : Nat := 18446744073709551615
def i16Max : Int := 32767

/-- `u64::saturating_add`. -/
def u64SaturatingAdd (a b : Nat) : Nat := min (a + b) u64Max

/-- A reading of the two clocks a row is stamped from. -/
structure Moment where
  instant : Instant
  utc : Timestamp
  deriving DecidableEq, Repr

/-! ## What an upstream answers -/

/-- `provider.rs` `TokenUsage`. -/
structure TokenUsage where
  inputTokens : Option Nat
  outputTokens : Option Nat
  cachedInputTokens : Option Nat
  cacheWriteInputTokens : Option Nat
  deriving DecidableEq, Repr

structure ToolCall where
  id : String
  name : String
  arguments : String
  deriving DecidableEq, Repr

/-- `provider.rs` `ChatResponse`. -/
structure ChatResponse where
  text : Option String
  toolCalls : List ToolCall
  reasoningContent : Option String
  usage : Option TokenUsage
  deriving DecidableEq, Repr

def OpenAiUsage.zero : OpenAiUsage where
  promptTokens := 0
  completionTokens := 0
  totalTokens := 0
  promptTokensDetails := none

/-- `OpenAiUsage::try_from_provider`: an absent or all-zero report is no report. -/
def OpenAiUsage.tryFromProvider (usage : Option TokenUsage) : Option OpenAiUsage := do
  let usage ← usage
  let input ← usage.inputTokens
  let output ← usage.outputTokens
  if input = 0 ∧ output = 0 then none
  else
    let cached := min (usage.cachedInputTokens.getD 0) input
    let written := min (usage.cacheWriteInputTokens.getD 0) (input - cached)
    return {
      promptTokens := input
      completionTokens := output
      totalTokens := u64SaturatingAdd input output
      promptTokensDetails :=
        if 0 < cached ∨ 0 < written then
          some { cachedTokens := cached, cacheWriteTokens := written }
        else none }

/-- `retry.rs` `is_empty_completion`. -/
def ChatResponse.isEmptyCompletion (response : ChatResponse) : Bool :=
  trim (response.text.getD "") = "" && response.toolCalls.isEmpty &&
    response.reasoningContent.all fun reasoning => trim reasoning = ""

/-! ## Attempt rows -/

namespace AttemptTokens

def unknown : AttemptTokens where
  input := none
  cachedInput := none
  cacheWriteInput := none
  output := none

def measured (usage : OpenAiUsage) : AttemptTokens where
  input := some usage.promptTokens
  cachedInput := some usage.cachedInputTokens
  cacheWriteInput := some usage.cacheWriteTokens
  output := some usage.completionTokens

def outputFloor (output : Nat) : AttemptTokens := { unknown with output := some output }

/-- The usage to price an attempt from, unless nothing at all is known. -/
def priceable (tokens : AttemptTokens) : Option OpenAiUsage :=
  ((tokens.input.or tokens.cachedInput).or (tokens.cacheWriteInput.or tokens.output)).map fun _ =>
    let input := tokens.input.getD 0
    let cached := min (tokens.cachedInput.getD 0) input
    let written := min (tokens.cacheWriteInput.getD 0) (input - cached)
    let output := tokens.output.getD 0
    { promptTokens := input
      completionTokens := output
      totalTokens := u64SaturatingAdd input output
      promptTokensDetails :=
        if 0 < cached ∨ 0 < written then
          some { cachedTokens := cached, cacheWriteTokens := written }
        else none }

end AttemptTokens

/-- `attempt_tokens`. -/
def attemptTokens (usage : Option OpenAiUsage) (estimatedOutput : Nat) : AttemptTokens :=
  match usage with
  | some usage => .measured usage
  | none => if 0 < estimatedOutput then .outputFloor estimatedOutput else .unknown

/-- `build_attempt`.  An unknown prompt leaves a repricing candidate's cost unknown,
    since no band can be chosen for it. -/
def buildAttempt (attemptNo : Nat) (candidate : TierCandidate) (outcome : String) (served : Bool)
    (started now : Moment) (tokens : AttemptTokens) (tokensEstimated : Bool) : AttemptRecord where
  attemptNo := min attemptNo i16Max
  startedAt := now.utc - 1000 * min ((now.instant - started.instant : Nat) : Int) i32Max
  candidateId := candidate.id
  upstreamProvider := candidate.provider
  upstreamModel := candidate.model
  outcome := outcome
  served := served
  latencyMs := min ((now.instant - started.instant : Nat) : Int) i32Max
  tokens := tokens
  tokensEstimated := tokensEstimated
  costBasisUsd :=
    tokens.priceable.bind fun usage =>
      if candidate.rates.isFlat ∨ tokens.input.isSome then
        usageCost (candidate.rates.atPromptTokens usage.promptTokens) usage
      else none

/-- The row of a position the walk declined to dispatch. -/
def skippedAttempt (attemptNo : Nat) (candidate : TierCandidate) (outcome : String) (now : Moment) :
    AttemptRecord :=
  buildAttempt attemptNo candidate outcome false now now .unknown false

/-! ## Settling -/

/-- `config.rs` `ResolvedRoute`, as the walk and admission read it. -/
structure ResolvedRoute where
  requestedModel : String
  candidates : List TierCandidate
  sellRates : RateSchedule
  deriving DecidableEq, Repr

/-- `RequestFeatures`: whose credential the recorded attempt dispatched on. -/
structure RequestFeatures where
  byokServed : Bool
  byokFallbackServed : Bool
  deriving DecidableEq, Repr

/-- `RequestFeatures::from_request`: no candidate chosen yet. -/
def RequestFeatures.fromRequest : RequestFeatures where
  byokServed := false
  byokFallbackServed := false

def RequestFeatures.onCandidate (_features : RequestFeatures) (candidate : ProviderCandidate) :
    RequestFeatures where
  byokServed := candidate.byok
  byokFallbackServed := candidate.byokFallbackFor.isSome

def RequestFeatures.byokRate (features : RequestFeatures) : Decimal :=
  if features.byokServed then feeRate else houseRate

/-- The arguments of one `persist_usage` call. -/
structure SettleCall where
  session : UsageSession
  requestedModel : String
  upstreamProvider : String
  upstreamModel : String
  candidate : Option TierCandidate
  usage : OpenAiUsage
  sellRates : RateSchedule
  features : RequestFeatures
  attempts : List AttemptRecord
  status : Int
  started : Moment
  now : Moment
  deriving DecidableEq, Repr

/-- `persist_usage`'s record: the metered usage priced in its band, at the fee rate
    on the customer's credential.  `none` is a metering failure. -/
def SettleCall.record (call : SettleCall) : Option UsageRecord := do
  let catalogCost ← usageCost (call.sellRates.atPromptTokens call.usage.promptTokens) call.usage
  let cost ← applyFee catalogCost call.features.byokRate
  return {
    tier := call.requestedModel
    upstreamProvider := call.upstreamProvider
    upstreamModel := call.upstreamModel
    usage := call.usage
    costUsd := cost
    byokCatalogUsd := if call.features.byokServed then some catalogCost else none
    latencyMs := min ((call.now.instant - call.started.instant : Nat) : Int) i32Max
    status := call.status
    byok := some call.features.byokServed
    attempts := call.attempts }

/-- `persist_usage`: whether the session recorded the usage, `persists` being the
    database's answer. -/
def persistUsage (persists : UsageRecord → Bool) (call : SettleCall) : Bool :=
  call.record.any persists

/-- `error.rs` `ApiError`, as far as sizing a request or walking its route can end in it. -/
inductive ApiError where
  | upstreamUnavailable
  | retentionAttestationFailed
  | upstreamRejectedParameters (reason : String)
  | upstreamTimeout
  | serverShuttingDown
  | meteringUnavailable
  | noProviderAvailable
  | invalidRequest
  deriving DecidableEq, Repr

/-! ## What a stream delivered -/

/-- `StreamDelivery`. -/
structure StreamDelivery where
  modelOutputSent : Bool
  modelOutputAttempted : Bool
  deriving DecidableEq, Repr

inductive Frame where
  | modelOutput
  | scaffolding
  deriving DecidableEq, Repr

namespace StreamDelivery

def none : StreamDelivery := { modelOutputSent := false, modelOutputAttempted := false }

/-- Send one frame; `accepted` is the channel's answer. -/
def send (delivery : StreamDelivery) (accepted : Bool) (frame : Frame) : StreamDelivery where
  modelOutputAttempted := delivery.modelOutputAttempted || frame = .modelOutput
  modelOutputSent := delivery.modelOutputSent || (accepted && frame = .modelOutput)

/-- Send a run of frames, stopping at the first the channel refuses. -/
def sendAll (frame : Frame) : List Bool → StreamDelivery → Bool × StreamDelivery
  | [], delivery => (true, delivery)
  | true :: rest, delivery => sendAll frame rest (delivery.send true frame)
  | false :: _, delivery => (false, delivery.send false frame)

/-- Emit the opening frame once. -/
def ensureOpen (delivery : StreamDelivery) (alreadySent accepted : Bool) : Bool × StreamDelivery :=
  if alreadySent then (true, delivery) else (accepted, delivery.send accepted .scaffolding)

def abandonedByClient (delivery : StreamDelivery) : Bool :=
  delivery.modelOutputAttempted && !delivery.modelOutputSent

/-- Bill only metered actuals: what was measured, when output reached the client. -/
def settledUsage (delivery : StreamDelivery) (usage : Option OpenAiUsage) : OpenAiUsage :=
  if delivery.modelOutputSent then usage.getD .zero else .zero

end StreamDelivery

/-! ## Facts about rows -/

@[simp] theorem buildAttempt_served (attemptNo : Nat) (candidate : TierCandidate)
    (outcome : String) (served : Bool) (started now : Moment) (tokens : AttemptTokens)
    (estimated : Bool) :
    (buildAttempt attemptNo candidate outcome served started now tokens estimated).served =
      served := rfl

@[simp] theorem buildAttempt_outcome (attemptNo : Nat) (candidate : TierCandidate)
    (outcome : String) (served : Bool) (started now : Moment) (tokens : AttemptTokens)
    (estimated : Bool) :
    (buildAttempt attemptNo candidate outcome served started now tokens estimated).outcome =
      outcome := rfl

@[simp] theorem buildAttempt_attemptNo (attemptNo : Nat) (candidate : TierCandidate)
    (outcome : String) (served : Bool) (started now : Moment) (tokens : AttemptTokens)
    (estimated : Bool) :
    (buildAttempt attemptNo candidate outcome served started now tokens estimated).attemptNo =
      min (attemptNo : Int) i16Max := rfl

/-- Settling zero tokens costs nothing, whatever the rates. -/
theorem usageCost_zero {rates : ModelRates} {cost : Decimal}
    (h : usageCost rates .zero = some cost) : cost = 0 := by
  obtain ⟨-, h⟩ := usageCost_eq_some h
  simp [OpenAiUsage.split, OpenAiUsage.zero] at h
  exact h

end ZeroRouter
