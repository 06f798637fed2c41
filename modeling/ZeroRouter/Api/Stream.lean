import ZeroRouter.Api.Walk

/-!
# The streaming walk

`src/router/src/api.rs` `stream_to_channel`: one dispatch a candidate, answered as
a live stream or, on a client that cannot stream, replayed from a buffered answer.
The session is held in an `Option` that the settle sites take.
-/

namespace ZeroRouter

/-- One event of a live stream, with the channel's answers to the frames it makes. -/
inductive StreamStep where
  | textDelta (delta : String) (reasoning : Option String) (tokenCount : Nat) (opened : Bool)
      (frames : List Bool)
  | toolCall (opened : Bool) (frames : List Bool)
  | usage (usage : TokenUsage)
  deriving DecidableEq, Repr

/-- `StreamWire`: the dialect a stream is written on. -/
inductive StreamWire where
  | chatCompletions
  | responses
  deriving DecidableEq, Repr

/-- `StreamWire::delta`, by how many frames it makes of the pieces. -/
def StreamWire.delta (content reasoning : Option String) : StreamWire → Nat
  | chatCompletions => 1
  | responses =>
      (reasoning.filter (· ≠ "")).toList.length + (content.filter (· ≠ "")).toList.length

/-- `StreamWire::tool_call`, likewise. -/
def StreamWire.toolCall : StreamWire → Nat
  | chatCompletions => 1
  | responses => 4

/-- The channel answers each frame the dialect makes of the event. -/
def StreamStep.Framed (wire : StreamWire) : StreamStep → Prop
  | textDelta delta reasoning _ _ frames =>
      frames.length = wire.delta (if delta = "" then none else some delta) reasoning
  | toolCall _ frames => frames.length = wire.toolCall
  | usage _ => True

/-- How a live stream stops: its terminal event, its plain end, an error, or an
    interruption (the deadline check at the loop head and the timeout round the poll
    come to the same). -/
inductive StreamEnd where
  | final
  | ended
  | failed (err : UpstreamError)
  | timeout
  | shutdown
  deriving DecidableEq, Repr

/-- One dispatch of the streaming walk.  `call` answers a candidate that cannot
    stream; `closed` is `sender.is_closed()` when the outcome is settled. -/
structure StreamTry where
  start : Moment
  call : Call
  steps : List StreamStep
  stop : StreamEnd
  opened : Bool
  observed : List (Instant × AttemptRecord)
  finish : Moment
  closed : Bool
  deriving DecidableEq, Repr

structure StreamSurroundings where
  started : Moment
  arrival : Nat → Arrival
  attempt : Nat → StreamTry
  persists : UsageRecord → Bool

/-- The walk-scoped locals. -/
structure StreamState where
  usageSession : Option UsageSession
  clientConnected : Bool
  retentionAttestationFailed : Bool
  parameterRejection : Option String
  delivery : StreamDelivery
  lastCandidate : Option TierCandidate
  attempts : WalkLedger
  byokFallbackArmed : List String
  dispatches : List Dispatch

def StreamState.meet (state : StreamState) (observed : List (Instant × AttemptRecord)) :
    StreamState :=
  { state with attempts := state.attempts.meet observed }

section Meet

variable (state : StreamState) (observed : List (Instant × AttemptRecord))

@[simp] theorem StreamState.meet_armed :
    (state.meet observed).byokFallbackArmed = state.byokFallbackArmed := rfl

@[simp] theorem StreamState.meet_lastCandidate :
    (state.meet observed).lastCandidate = state.lastCandidate := rfl

@[simp] theorem StreamState.meet_dispatches :
    (state.meet observed).dispatches = state.dispatches := rfl

@[simp] theorem StreamState.meet_health :
    (state.meet observed).attempts.health = state.attempts.health.observeAll observed := rfl

end Meet

/-- `StreamInterruption`. -/
inductive StreamInterruption where
  | timeout
  | shutdown
  deriving DecidableEq, Repr

namespace StreamInterruption

def status : StreamInterruption → Int
  | timeout => 504
  | shutdown => 503

def apiError : StreamInterruption → ApiError
  | timeout => .upstreamTimeout
  | shutdown => .serverShuttingDown

def attemptOutcome : StreamInterruption → String
  | timeout => "timeout"
  | shutdown => "aborted"

def ending : StreamInterruption → Ending
  | timeout => .deadline
  | shutdown => .shutdown

end StreamInterruption

/-- What one candidate's stream has come to. -/
structure StreamLocals where
  clientConnected : Bool
  delivery : StreamDelivery
  roleSent : Bool
  usage : Option OpenAiUsage
  estimatedOutput : Nat
  deriving DecidableEq, Repr

/-- Open the assistant's turn if need be, then send one step's frames. -/
def StreamLocals.deliver (locals : StreamLocals) (opened : Bool) (frames : List Bool) :
    StreamLocals :=
  if !locals.clientConnected then locals
  else
    let (roleSent, delivery) := locals.delivery.ensureOpen locals.roleSent opened
    if !roleSent then { locals with clientConnected := false, roleSent, delivery }
    else
      let (accepted, delivery) := StreamDelivery.sendAll .modelOutput frames delivery
      { locals with clientConnected := accepted, roleSent, delivery }

/-- One event of the stream loop. -/
def StreamLocals.step (locals : StreamLocals) : StreamStep → StreamLocals
  | .textDelta delta reasoning tokenCount opened frames =>
      let locals :=
        { locals with estimatedOutput := u64SaturatingAdd locals.estimatedOutput tokenCount }
      if delta = "" ∧ reasoning.getD "" = "" then locals else locals.deliver opened frames
  | .toolCall opened frames => locals.deliver opened frames
  | .usage usage => { locals with usage := OpenAiUsage.tryFromProvider (some usage) }

section Streaming

variable (request : WalkRequest) (env : StreamSurroundings)

/-- Take the session, if it is still held, and settle it with `call`. -/
def settleTaken (state : StreamState) (call : UsageSession → SettleCall) : List SettleCall × Bool :=
  match state.usageSession with
  | none => ([], false)
  | some session => ([call session], persistUsage env.persists (call session))

/-- The fields every settle site of the walk shares. -/
def streamCall (candidate : Option TierCandidate) (upstreamProvider upstreamModel : String)
    (usage : OpenAiUsage) (features : RequestFeatures) (attempts : List AttemptRecord)
    (status : Int) (now : Moment) (session : UsageSession) : SettleCall where
  session := session
  requestedModel := request.resolved.requestedModel
  upstreamProvider := upstreamProvider
  upstreamModel := upstreamModel
  candidate := candidate
  usage := usage
  sellRates := request.resolved.sellRates
  features := features
  attempts := attempts
  status := status
  started := env.started
  now := now

/-- `settle_stream_interruption`. -/
def settleStreamInterruption (state : StreamState) (candidate : Option TierCandidate)
    (usage : Option OpenAiUsage) (features : RequestFeatures) (closed : Bool)
    (interruption : StreamInterruption) (now : Moment) : Walked :=
  let clientConnected := state.clientConnected && !closed
  let (upstreamProvider, upstreamModel) :=
    candidate.elim ("fallback-chain", request.resolved.requestedModel)
      fun candidate => (candidate.provider, candidate.model)
  let (settles, settled) :=
    settleTaken env state
      (streamCall request env candidate upstreamProvider upstreamModel
        (state.delivery.settledUsage usage) features state.attempts.rows
        (if clientConnected then interruption.status else 499) now)
  { settles
    dispatches := state.dispatches
    ending := interruption.ending
    error :=
      if clientConnected then
        some (if settled then interruption.apiError else .meteringUnavailable)
      else none
    health := state.attempts.health }

/-- Settle a candidate's own outcome: a row pushed, the session taken, priced from
    that candidate. -/
def settleOnCandidate (state : StreamState) (candidate : ProviderCandidate) (row : AttemptRecord)
    (usage : OpenAiUsage) (status : Int) (ending : Ending) (error : Bool → Option ApiError)
    (now : Moment) : Walked :=
  let attempts := state.attempts.push now.instant row
  let (settles, settled) :=
    settleTaken env state
      (streamCall request env (some candidate.definition) candidate.definition.provider
        candidate.definition.model usage (RequestFeatures.fromRequest.onCandidate candidate)
        attempts.rows status now)
  { settles
    dispatches := state.dispatches
    ending
    error := error settled
    health := attempts.health }

/-- `complete_synthetic_stream`: a buffered answer, settled and then replayed. -/
def completeSyntheticStream (state : StreamState) (candidate : ProviderCandidate)
    (response : ChatResponse) (attemptNo : Nat) (attempt : StreamTry) : Walked :=
  let row served tokens :=
    buildAttempt attemptNo candidate.definition "ok" served attempt.start attempt.finish tokens
      false
  match OpenAiUsage.tryFromProvider response.usage with
  | none =>
      settleOnCandidate request env state candidate (row false .unknown) .zero 502 .served
        (fun _ => some .meteringUnavailable) attempt.finish
  | some usage =>
      settleOnCandidate request env state candidate (row true (.measured usage)) usage
        (if attempt.closed then 499 else 200) .served
        (fun settled => if settled then none else some .meteringUnavailable) attempt.finish

/-- `finish_successful_stream`: a stream that ran to its terminal event. -/
def finishSuccessfulStream (state : StreamState) (candidate : ProviderCandidate)
    (usage : Option OpenAiUsage) (attemptNo : Nat) (status : Int) (attempt : StreamTry) : Walked :=
  let served := state.delivery.modelOutputSent
  let row tokens :=
    buildAttempt attemptNo candidate.definition "ok" served attempt.start attempt.finish tokens
      false
  match usage with
  | none =>
      settleOnCandidate request env state candidate (row .unknown)
        (state.delivery.settledUsage none) 502 .served (fun _ => some .meteringUnavailable)
        attempt.finish
  | some usage =>
      settleOnCandidate request env state candidate (row (.measured usage))
        (if state.delivery.abandonedByClient then .zero else usage) status .served
        (fun settled => if settled then none else some .meteringUnavailable) attempt.finish

/-- The label of a stream that broke. -/
def brokenOutcome (rateLimited delivered : Bool) : String :=
  if rateLimited && !delivered then "rate_limited" else "stream_error"

/-- A stream that ended without its terminal event, `err` being its error if it had
    one: settled when anything was delivered or the client is gone, otherwise a failure
    the walk moves on from. -/
def breakStream (state : StreamState) (position : Nat) (candidate : ProviderCandidate)
    (locals : StreamLocals) (err : Option UpstreamError) (attemptNo : Nat) (attempt : StreamTry) :
    Except Walked StreamState :=
  let definition := candidate.definition
  let rateLimited := err.any UpstreamError.isRateLimited
  let accountRefused := err.any UpstreamError.isNonRetryableRateLimit
  let tokens := attemptTokens locals.usage locals.estimatedOutput
  let delivered := locals.delivery.modelOutputSent
  let clientConnected := locals.clientConnected && !attempt.closed
  let row served :=
    buildAttempt attemptNo definition (brokenOutcome rateLimited delivered) served attempt.start
      attempt.finish tokens (locals.usage.isNone && tokens ≠ .unknown)
  let state :=
    { state with
      clientConnected
      delivery := locals.delivery
      retentionAttestationFailed :=
        state.retentionAttestationFailed || err.any UpstreamError.isRetentionAttestationFailure
      parameterRejection := state.parameterRejection.or (err.bind (·.parameterRejection))
      dispatches :=
        state.dispatches ++ [{ position, failure := some (.stream accountRefused) }] }
  if delivered || !clientConnected then
    .error
      (settleOnCandidate request env state candidate (row delivered)
        (locals.delivery.settledUsage locals.usage) (if clientConnected then 502 else 499)
        (if clientConnected then .broken else .disconnected)
        (fun settled =>
          if !clientConnected then none
          else if !settled then some .meteringUnavailable
          else if state.retentionAttestationFailed then some .retentionAttestationFailed
          else some .upstreamUnavailable)
        attempt.finish)
  else
    .ok
      { state with
        byokFallbackArmed :=
          armFallback candidate (.stream accountRefused) state.byokFallbackArmed
        attempts := state.attempts.push attempt.finish.instant (row false) }

/-- The dispatch of a candidate whose client streams. -/
def streamCandidate (state : StreamState) (position : Nat) (candidate : ProviderCandidate)
    (attemptNo : Nat) (attempt : StreamTry) : Except Walked StreamState :=
  let definition := candidate.definition
  let features := RequestFeatures.fromRequest.onCandidate candidate
  let locals := attempt.steps.foldl StreamLocals.step
    { clientConnected := state.clientConnected
      delivery := state.delivery
      roleSent := false
      usage := none
      estimatedOutput := 0 }
  let called : StreamState :=
    { state with dispatches := state.dispatches ++ [{ position, failure := none }] }
  let interrupt (interruption : StreamInterruption) : Except Walked StreamState :=
    -- An interruption does not undo a delivery: what reached the client was served.
    let tokens := attemptTokens locals.usage locals.estimatedOutput
    let row := buildAttempt attemptNo definition interruption.attemptOutcome
      locals.delivery.modelOutputSent attempt.start attempt.finish tokens
      (locals.usage.isNone && tokens ≠ .unknown)
    let called :=
      { called with
        clientConnected := locals.clientConnected
        delivery := locals.delivery
        attempts := called.attempts.push attempt.finish.instant row }
    .error
      (settleStreamInterruption request env called (some definition) locals.usage features
        attempt.closed interruption attempt.finish)
  match attempt.stop with
  | .timeout => interrupt .timeout
  | .shutdown => interrupt .shutdown
  | .final =>
      let (roleAccepted, delivery) := locals.delivery.ensureOpen locals.roleSent attempt.opened
      let delivery := if locals.clientConnected then delivery else locals.delivery
      let clientConnected := locals.clientConnected && roleAccepted
      .error
        (finishSuccessfulStream request env { called with delivery := delivery } candidate locals.usage
          attemptNo (if clientConnected && !attempt.closed then 200 else 499) attempt)
  | .ended => breakStream request env state position candidate locals none attemptNo attempt
  | .failed err => breakStream request env state position candidate locals (some err) attemptNo attempt

/-- The dispatch of a candidate whose client cannot stream. -/
def bufferCandidate (state : StreamState) (position : Nat) (candidate : ProviderCandidate)
    (attemptNo : Nat) (attempt : StreamTry) : Except Walked StreamState :=
  let definition := candidate.definition
  let features := RequestFeatures.fromRequest.onCandidate candidate
  let row outcome :=
    buildAttempt attemptNo definition outcome false attempt.start attempt.finish .unknown false
  let called (failure : Option Failure) : StreamState :=
    { state with
      lastCandidate := some definition
      dispatches := state.dispatches ++ [{ position, failure }] }
  let interrupt (state : StreamState) (outcome : String) (interruption : StreamInterruption) :
      Except Walked StreamState :=
    let state :=
      { state with attempts := state.attempts.push attempt.finish.instant (row outcome) }
    .error
      (settleStreamInterruption request env state (some definition) none features attempt.closed
        interruption attempt.finish)
  match attempt.call with
  | .shutdown false =>
      .error
        (settleStreamInterruption request env state state.lastCandidate none features
          attempt.closed .shutdown attempt.finish)
  | .shutdown true => interrupt (called none) "aborted" .shutdown
  | .elapsed => interrupt (called none) "timeout" .timeout
  | .answered response =>
      .error (completeSyntheticStream request env (called none) candidate response attemptNo attempt)
  | .failed err =>
      let kind := classify err false
      let state := called (some (.chat kind))
      .ok
        { state with
          retentionAttestationFailed :=
            state.retentionAttestationFailed || kind = .retentionAttestation
          parameterRejection :=
            if state.parameterRejection.isNone ∧ kind = .nonRetryable then err.parameterRejection
            else state.parameterRejection
          byokFallbackArmed := armFallback candidate (.chat kind) state.byokFallbackArmed
          attempts := state.attempts.push attempt.finish.instant (row kind.outcome) }

def StreamState.skip (state : StreamState) (candidate : TierCandidate) (outcome : String)
    (now : Moment) : StreamState :=
  { state with
    attempts :=
      state.attempts.push now.instant
        (skippedAttempt (state.attempts.rows.length + 1) candidate outcome now) }

/-- The client was found gone on arrival at a candidate. -/
def settleDisconnected (state : StreamState) (now : Moment) : Walked :=
  let (upstreamProvider, upstreamModel) :=
    state.lastCandidate.elim ("none", "client-disconnected")
      fun candidate => (candidate.provider, candidate.model)
  let (settles, _) :=
    settleTaken env state
      (streamCall request env state.lastCandidate upstreamProvider upstreamModel .zero
        .fromRequest state.attempts.rows 499 now)
  { settles
    dispatches := state.dispatches
    ending := .disconnected
    error := none
    health := state.attempts.health }

/-- One pass of the candidate loop. -/
def visitStreaming (position : Nat) (candidate : ProviderCandidate) (state : StreamState) :
    Except Walked StreamState :=
  let arrival := env.arrival position
  let definition := candidate.definition
  let state := state.meet arrival.observed
  if policySkips state.byokFallbackArmed candidate then
    .ok (state.skip definition "policy_skipped" arrival.now)
  else if arrival.closed then .error (settleDisconnected request env state arrival.now)
  else if state.attempts.health.shouldSkip arrival.now.instant definition &&
      (state.lastCandidate.isSome || position + 1 < request.candidates.length) then
    .ok (state.skip definition "health_skipped" arrival.now)
  else
    let attempt := env.attempt position
    match remainingUpstreamTime env.started attempt.start with
    | none =>
        .error
          (settleStreamInterruption request env state state.lastCandidate none .fromRequest
            attempt.closed .timeout attempt.start)
    | some _ =>
        let attemptNo := state.attempts.rows.length + 1
        let state := state.meet attempt.observed
        if candidate.supportsStreaming then
          streamCandidate request env { state with lastCandidate := some definition } position
            candidate attemptNo attempt
        else bufferCandidate request env state position candidate attemptNo attempt

/-- The terminal of a walk that came to the end of its route: nothing was delivered,
    and the session is settled when some candidate was tried. -/
def exhaustStream (state : StreamState) (now : Moment) : Walked :=
  match state.lastCandidate with
  | none =>
      { settles := []
        dispatches := state.dispatches
        ending := .exhausted
        error := some .noProviderAvailable
        health := state.attempts.health }
  | some candidate =>
      let status :=
        if state.retentionAttestationFailed then 502
        else if state.parameterRejection.isSome then 400
        else 502
      let (settles, settled) :=
        settleTaken env state
          (streamCall request env (some candidate) candidate.provider candidate.model .zero
            .fromRequest state.attempts.rows status now)
      { settles
        dispatches := state.dispatches
        ending := .exhausted
        error :=
          some
            (if state.usageSession.isNone then .noProviderAvailable
             else if !settled then .meteringUnavailable
             else if state.retentionAttestationFailed then .retentionAttestationFailed
             else state.parameterRejection.elim .upstreamUnavailable .upstreamRejectedParameters)
        health := state.attempts.health }

def StreamState.start (health : ProviderHealth) : StreamState where
  usageSession := some request.session
  clientConnected := true
  retentionAttestationFailed := false
  parameterRejection := none
  delivery := .none
  lastCandidate := none
  attempts := .new health
  byokFallbackArmed := []
  dispatches := []

/-- The walk up to, and not including, a position: still going, or ended before it. -/
def streamTo (health : ProviderHealth) (position : Nat) : Except Walked StreamState :=
  Loop.enumerate (visitStreaming request env) 0 (request.candidates.take position)
    (StreamState.start request health)

/-- `stream_to_channel`. -/
def streamToChannel (health : ProviderHealth) : Walked :=
  match streamTo request env health request.candidates.length with
  | .error walked => walked
  | .ok state => exhaustStream request env state (env.arrival request.candidates.length).now

end Streaming

end ZeroRouter
