import ZeroRouter.Api.Metering
import ZeroRouter.Lib.Loop

/-!
# The buffered walk

`src/router/src/api.rs` `run_non_streaming`: try the route's candidates in order,
each with its own retry budget, and settle the session wherever the walk ends.

What the walk does not control is read from `Surroundings`: the clocks, the rows
other walks record into the shared health registry meanwhile, what each upstream
call comes to, and whether a settle reaches the database.  Every function below
is deterministic in those readings.
-/

namespace ZeroRouter

/-- `UPSTREAM_REQUEST_TIMEOUT`, in milliseconds. -/
def upstreamRequestTimeout : Nat := 15 * 60 * 1000

/-- `CANDIDATE_RETRIES`, `CANDIDATE_BACKOFF_MS`. -/
def candidateRetries : Nat := 2
def candidateBackoffMs : Nat := 500

/-- `remaining_upstream_time`. -/
def remainingUpstreamTime (started now : Moment) : Option Nat :=
  if now.instant - started.instant < upstreamRequestTimeout then
    some (upstreamRequestTimeout - (now.instant - started.instant))
  else none

/-- What the `select!` round one `chat` call yields. -/
inductive Call where
  | shutdown (started : Bool)
  | elapsed
  | answered (response : ChatResponse)
  | failed (err : UpstreamError)
  deriving DecidableEq, Repr

/-- What the walk finds on arriving at a candidate: the clocks, the rows other walks
    have recorded since it last looked, and whether a streaming client is gone. -/
structure Arrival where
  now : Moment
  observed : List (Instant × AttemptRecord)
  closed : Bool
  deriving DecidableEq, Repr

/-- One attempt at a candidate.  `slept wait` says whether a backoff of `wait`
    milliseconds ran out before a shutdown. -/
structure Try where
  start : Moment
  call : Call
  observed : List (Instant × AttemptRecord)
  finish : Moment
  slept : Nat → Bool

/-- Everything the buffered walk reads from outside. -/
structure Surroundings where
  started : Moment
  arrival : Nat → Arrival
  attempt : Nat → Nat → Try
  persists : UsageRecord → Bool

/-- How an upstream call failed: with a classified error, or as a stream that broke
    before anything was delivered. -/
inductive Failure where
  | chat (kind : FailureClass)
  | stream (accountRefused : Bool)
  deriving DecidableEq, Repr

/-- The opt-in covers the failure. -/
def Failure.permitsByokFallback : Failure → Bool
  | chat kind => kind.permitsByokFallback
  | stream accountRefused => !accountRefused

/-- One call made upstream (`dispatch_marker.fire`): the position it was made for and
    how it failed, if it did. -/
structure Dispatch where
  position : Nat
  failure : Option Failure
  deriving DecidableEq, Repr

/-- How a walk ended. -/
inductive Ending where
  | served
  | broken
  | exhausted
  | deadline
  | shutdown
  | disconnected
  deriving DecidableEq, Repr

/-- The request was cut short from outside. -/
def Ending.interrupted : Ending → Bool
  | deadline | shutdown | disconnected => true
  | served | broken | exhausted => false

/-- A finished walk: every `persist_usage` call made, every upstream call made, how
    it ended, what the client is told if not a completion, and the registry it leaves. -/
structure Walked where
  settles : List SettleCall
  dispatches : List Dispatch
  ending : Ending
  error : Option ApiError
  health : ProviderHealth

/-- The positions a walk dispatched. -/
def dispatchedAt (dispatches : List Dispatch) (position : Nat) : Prop :=
  ∃ call ∈ dispatches, call.position = position

instance (dispatches : List Dispatch) (position : Nat) :
    Decidable (dispatchedAt dispatches position) :=
  inferInstanceAs (Decidable (∃ call ∈ dispatches, call.position = position))

/-- What a walk is given. -/
structure WalkRequest where
  session : UsageSession
  resolved : ResolvedRoute
  messages : List ChatMessage
  candidates : List ProviderCandidate
  deriving DecidableEq, Repr

/-- The walk-scoped locals. -/
structure WalkState where
  effectiveMessages : List ChatMessage
  contextTruncated : Bool
  retentionAttestationFailed : Bool
  parameterRejection : Option String
  lastCandidate : Option TierCandidate
  attempts : WalkLedger
  byokFallbackArmed : List String
  dispatches : List Dispatch

/-- The walk as other walks' rows reach the registry it shares with them. -/
def WalkState.meet (state : WalkState) (observed : List (Instant × AttemptRecord)) : WalkState :=
  { state with attempts := state.attempts.meet observed }

section Meet

variable (state : WalkState) (observed : List (Instant × AttemptRecord))

@[simp] theorem WalkState.meet_armed :
    (state.meet observed).byokFallbackArmed = state.byokFallbackArmed := rfl

@[simp] theorem WalkState.meet_lastCandidate :
    (state.meet observed).lastCandidate = state.lastCandidate := rfl

@[simp] theorem WalkState.meet_dispatches :
    (state.meet observed).dispatches = state.dispatches := rfl

@[simp] theorem WalkState.meet_health :
    (state.meet observed).attempts.health = state.attempts.health.observeAll observed := rfl

end Meet

/-- `WalkTerminal`. -/
inductive WalkTerminal where
  | exhausted
  | retentionAttestation
  | parameterRejected (reason : String)
  | timeout
  | shutdown
  deriving DecidableEq, Repr

namespace WalkTerminal

def status : WalkTerminal → Int
  | exhausted | retentionAttestation => 502
  | parameterRejected _ => 400
  | timeout => 504
  | shutdown => 503

def apiError : WalkTerminal → ApiError
  | exhausted => .upstreamUnavailable
  | retentionAttestation => .retentionAttestationFailed
  | parameterRejected reason => .upstreamRejectedParameters reason
  | timeout => .upstreamTimeout
  | shutdown => .serverShuttingDown

def ending : WalkTerminal → Ending
  | exhausted | retentionAttestation | parameterRejected _ => .exhausted
  | timeout => .deadline
  | shutdown => .shutdown

end WalkTerminal

/-- What a dispatch arms: the house twin behind a customer credential that failed in
    a way the opt-in covers. -/
def armFallback (candidate : ProviderCandidate) (failure : Failure) (armed : List String) :
    List String :=
  if candidate.byok && failure.permitsByokFallback then candidate.definition.provider :: armed
  else armed

/-- The twin of a rung that has not yet failed. -/
def policySkips (armed : List String) (candidate : ProviderCandidate) : Bool :=
  candidate.byokFallbackFor.any (!armed.contains ·)

section NonStreaming

variable (request : WalkRequest) (env : Surroundings)

/-- The fields every settle site of the walk shares. -/
def settleCall (candidate : Option TierCandidate) (upstreamProvider upstreamModel : String)
    (usage : OpenAiUsage) (features : RequestFeatures) (attempts : List AttemptRecord)
    (status : Int) (now : Moment) : SettleCall where
  session := request.session
  requestedModel := request.resolved.requestedModel
  upstreamProvider := upstreamProvider
  upstreamModel := upstreamModel
  candidate := candidate
  usage := usage
  sellRates := request.resolved.sellRates
  features := features
  attempts := attempts
  status := status
  started := env.started
  now := now

/-- `settle_walk_terminal`: release the reservation without a charge. -/
def settleWalkTerminal (state : WalkState) (terminal : WalkTerminal) (now : Moment) : Walked :=
  let (upstreamProvider, upstreamModel) :=
    state.lastCandidate.elim ("fallback-chain", request.resolved.requestedModel)
      fun candidate => (candidate.provider, candidate.model)
  let call :=
    settleCall request env state.lastCandidate upstreamProvider upstreamModel .zero
      .fromRequest state.attempts.rows terminal.status now
  { settles := [call]
    dispatches := state.dispatches
    ending := terminal.ending
    error := some (if persistUsage env.persists call then terminal.apiError else .meteringUnavailable)
    health := state.attempts.health }

/-- `serve_completion`: settle the completion that won the walk. -/
def serveCompletion (state : WalkState) (candidate : ProviderCandidate) (response : ChatResponse)
    (attemptNo : Nat) (started now : Moment) : Walked :=
  let definition := candidate.definition
  let features := RequestFeatures.fromRequest.onCandidate candidate
  match OpenAiUsage.tryFromProvider response.usage with
  | none =>
      -- No metered usage, no bill: the body is discarded and nothing was served.
      let attempts := state.attempts.push now.instant
        (buildAttempt attemptNo definition "ok" false started now .unknown false)
      { settles :=
          [settleCall request env (some definition) definition.provider definition.model .zero
            features attempts.rows 502 now]
        dispatches := state.dispatches
        ending := .served
        error := some .meteringUnavailable
        health := attempts.health }
  | some usage =>
      let attempts := state.attempts.push now.instant
        (buildAttempt attemptNo definition "ok" true started now (.measured usage) false)
      let call :=
        settleCall request env (some definition) definition.provider definition.model usage
          features attempts.rows 200 now
      { settles := [call]
        dispatches := state.dispatches
        ending := .served
        error := if persistUsage env.persists call then none else some .meteringUnavailable
        health := attempts.health }

/-- The locals of the attempt loop. -/
structure RungState where
  walk : WalkState
  backoffMs : Nat

/-- How the attempt loop is left before its budget is spent: `break`, `break 'walk`
    or `return`. -/
inductive RungExit where
  | nextCandidate (state : WalkState)
  | leaveWalk (state : WalkState) (now : Moment)
  | done (walked : Walked)

/-- A failed attempt, as the ledger, the latches and the arming record it. -/
def WalkState.recordFailure (state : WalkState) (candidate : ProviderCandidate)
    (kind : FailureClass) (err : UpstreamError) (row : AttemptRecord) (position : Nat)
    (now : Moment) : WalkState :=
  { state with
    lastCandidate := some candidate.definition
    retentionAttestationFailed :=
      state.retentionAttestationFailed || kind = .retentionAttestation
    parameterRejection :=
      if state.parameterRejection.isNone ∧ kind = .nonRetryable then err.parameterRejection
      else state.parameterRejection
    byokFallbackArmed := armFallback candidate (.chat kind) state.byokFallbackArmed
    attempts := state.attempts.push now.instant row
    dispatches := state.dispatches ++ [{ position, failure := some (.chat kind) }] }

/-- An attempt that did not fail, with the row it leaves. -/
def WalkState.recordCall (state : WalkState) (candidate : ProviderCandidate) (position : Nat)
    (rows : WalkLedger) : WalkState :=
  { state with
    lastCandidate := some candidate.definition
    attempts := rows
    dispatches := state.dispatches ++ [{ position, failure := none }] }

/-- Wait out a backoff, or end the walk when a shutdown cuts it short. -/
def backOff (state : WalkState) (backoffMs wait : Nat) (attempt : Try) :
    Except RungExit RungState :=
  if attempt.slept wait then .ok { walk := state, backoffMs := nextBackoff backoffMs }
  else .error (.done (settleWalkTerminal request env state .shutdown attempt.finish))

/-- After a failed attempt: repair the prompt, abandon the candidate, move on from a
    live 429, or wait. -/
def afterFailure (state : WalkState) (kind : FailureClass) (err : UpstreamError)
    (backoffMs index : Nat) (attempt : Try) : Except RungExit RungState :=
  match kind with
  | .contextWindow _ =>
      let (dropped, messages) := truncateForContext state.effectiveMessages
      if 0 < dropped then
        .ok
          { walk := { state with effectiveMessages := messages, contextTruncated := true }
            backoffMs }
      else .error (.leaveWalk state attempt.finish)
  | _ =>
      if kind.isNonRetryable then .error (.nextCandidate state)
      else if kind.isRateLimited ∧ 1 < request.candidates.length then
        .error (.nextCandidate state)
      else if index < candidateRetries then
        backOff request env state backoffMs (computeBackoff backoffMs err) attempt
      else .ok { walk := state, backoffMs }

/-- One pass of the attempt loop. -/
def attemptCandidate (position : Nat) (candidate : ProviderCandidate) (index : Nat) (_ : Unit)
    (rung : RungState) : Except RungExit RungState :=
  let attempt := env.attempt position index
  let definition := candidate.definition
  let state := rung.walk.meet attempt.observed
  match remainingUpstreamTime env.started attempt.start with
  | none => .error (.done (settleWalkTerminal request env state .timeout attempt.start))
  | some _ =>
      let attemptNo := state.attempts.rows.length + 1
      let row outcome tokens :=
        buildAttempt attemptNo definition outcome false attempt.start attempt.finish tokens false
      match attempt.call with
      | .shutdown false =>
          .error (.done (settleWalkTerminal request env state .shutdown attempt.finish))
      | .shutdown true =>
          let state := state.recordCall candidate position
            (state.attempts.push attempt.finish.instant (row "aborted" .unknown))
          .error (.done (settleWalkTerminal request env state .shutdown attempt.finish))
      | .elapsed =>
          let state := state.recordCall candidate position
            (state.attempts.push attempt.finish.instant (row "timeout" .unknown))
          .error (.done (settleWalkTerminal request env state .timeout attempt.finish))
      | .answered response =>
          if index < candidateRetries ∧ response.isEmptyCompletion then
            -- A blank turn is re-rolled against the same candidate.
            let tokens :=
              (OpenAiUsage.tryFromProvider response.usage).elim .unknown AttemptTokens.measured
            let state := state.recordCall candidate position
              (state.attempts.push attempt.finish.instant (row "validation_failed" tokens))
            backOff request env state rung.backoffMs rung.backoffMs attempt
          else
            let state := state.recordCall candidate position state.attempts
            .error (.done
              (serveCompletion request env state candidate response attemptNo attempt.start
                attempt.finish))
      | .failed err =>
          let kind := classify err state.contextTruncated
          let state := state.recordFailure candidate kind err (row kind.outcome .unknown) position
            attempt.finish
          afterFailure request env state kind err rung.backoffMs index attempt

/-- The terminal of a walk every candidate of which failed. -/
def exhaustWalk (state : WalkState) (now : Moment) : Walked :=
  settleWalkTerminal request env state
    (if state.retentionAttestationFailed then .retentionAttestation
     else state.parameterRejection.elim .exhausted .parameterRejected)
    now

/-- The attempt loop of one candidate. -/
def runAttempts (position : Nat) (candidate : ProviderCandidate) (state : WalkState) :
    Except Walked WalkState :=
  match Loop.enumerate (attemptCandidate request env position candidate) 0
      (List.replicate (candidateRetries + 1) ())
      { walk := state, backoffMs := candidateBackoffMs } with
  | .ok rung => .ok rung.walk
  | .error (.nextCandidate state) => .ok state
  | .error (.leaveWalk state now) => .error (exhaustWalk request env state now)
  | .error (.done walked) => .error walked

/-- A position passed without a call, with the row that says why. -/
def WalkState.skip (state : WalkState) (candidate : TierCandidate) (outcome : String)
    (now : Moment) : WalkState :=
  { state with
    attempts :=
      state.attempts.push now.instant
        (skippedAttempt (state.attempts.rows.length + 1) candidate outcome now) }

/-- One pass of the candidate loop. -/
def visitCandidate (position : Nat) (candidate : ProviderCandidate) (state : WalkState) :
    Except Walked WalkState :=
  let arrival := env.arrival position
  let definition := candidate.definition
  let state := state.meet arrival.observed
  if policySkips state.byokFallbackArmed candidate then
    .ok (state.skip definition "policy_skipped" arrival.now)
  else if state.attempts.health.shouldSkip arrival.now.instant definition &&
      (state.lastCandidate.isSome || position + 1 < request.candidates.length) then
    .ok (state.skip definition "health_skipped" arrival.now)
  else runAttempts request env position candidate state

def WalkState.start (health : ProviderHealth) : WalkState where
  effectiveMessages := request.messages
  contextTruncated := false
  retentionAttestationFailed := false
  parameterRejection := none
  lastCandidate := none
  attempts := .new health
  byokFallbackArmed := []
  dispatches := []

/-- The walk up to, and not including, a position: still going, or ended before it. -/
def walkTo (health : ProviderHealth) (position : Nat) : Except Walked WalkState :=
  Loop.enumerate (visitCandidate request env) 0 (request.candidates.take position)
    (WalkState.start request health)

/-- `run_non_streaming`. -/
def runNonStreaming (health : ProviderHealth) : Walked :=
  match walkTo request env health request.candidates.length with
  | .error walked => walked
  | .ok state => exhaustWalk request env state (env.arrival request.candidates.length).now

end NonStreaming

end ZeroRouter
