import ZeroRouter.Api.Process
import ZeroRouter.Proofs.Pipeline
import ZeroRouter.Proofs.Skips

/-!
# What one move of a request does

A move reads the registry at the rungs of the request's own route and writes it at the
rung it calls, if it calls one.
-/

namespace ZeroRouter

variable {candidate : ProviderCandidate} {state : WalkState} {health : ProviderHealth}
  {outcome : String} {position : Nat} {standing : Standing}

/-! ## Rows at a rung -/

/-- Rows of one candidate. -/
def RowsOf (candidate : TierCandidate) (rows : List (Instant × AttemptRecord)) : Prop :=
  ∀ row ∈ rows, (row.2.upstreamProvider, row.2.upstreamModel) = candidate.rung

theorem RowsOf.nil (candidate : TierCandidate) : RowsOf candidate [] := by
  intro row hrow
  cases hrow

theorem RowsOf.buildAttempt (candidate : TierCandidate) (at_ : Instant) (attemptNo : Nat)
    (outcome : String) (served : Bool) (started now : Moment) (tokens : AttemptTokens)
    (estimated : Bool) :
    RowsOf candidate
      [(at_, ZeroRouter.buildAttempt attemptNo candidate outcome served started now tokens
        estimated)] := by
  intro row hrow
  rw [List.mem_singleton] at hrow
  subst hrow
  rfl

namespace ProviderHealth

variable {health other : ProviderHealth} {key : String × String} {candidate : TierCandidate}

theorem observe_other {attempt : AttemptRecord} (now : Instant)
    (h : (attempt.upstreamProvider, attempt.upstreamModel) ≠ key) :
    health.observe now attempt key = health key := by
  unfold observe
  cases Update.ofOutcome attempt.outcome with
  | none => rfl
  | some update => exact if_neg (Ne.symm h)

theorem observe_congr (now : Instant) (attempt : AttemptRecord) (h : health key = other key) :
    health.observe now attempt key = other.observe now attempt key := by
  unfold observe
  cases Update.ofOutcome attempt.outcome with
  | none => exact h
  | some update =>
      show (if _ then (health key).apply now update else health key) = _
      rw [h]

/-- Registries that agree on a rung agree on it after the same rows. -/
theorem observeAll_congr (rows : List (Instant × AttemptRecord)) (h : health key = other key) :
    health.observeAll rows key = other.observeAll rows key := by
  induction rows generalizing health other with
  | nil => exact h
  | cons row rest ih => exact ih (observe_congr row.1 row.2 h)

/-- The rows of one candidate move no rung but its own. -/
theorem observeAll_other {rows : List (Instant × AttemptRecord)} (own : RowsOf candidate rows)
    (h : candidate.rung ≠ key) :
    health.observeAll rows key = health key := by
  induction rows generalizing health with
  | nil => rfl
  | cons row rest ih =>
      have first : (row.2.upstreamProvider, row.2.upstreamModel) ≠ key := by
        rw [own row List.mem_cons_self]
        exact h
      have later : RowsOf candidate rest := fun row hrow => own row (List.mem_cons_of_mem _ hrow)
      exact (ih later).trans (observe_other row.1 first)

theorem shouldSkip_congr (now : Instant) (h : health candidate.rung = other candidate.rung) :
    health.shouldSkip now candidate = other.shouldSkip now candidate := by
  have same : health (candidate.provider, candidate.model) =
      other (candidate.provider, candidate.model) := h
  unfold shouldSkip
  rw [same]

end ProviderHealth

/-! ## A move, whatever the registry -/

section Attempt

variable (walk : WalkRequest) (env : Surroundings) {position index : Nat}
  {candidate : ProviderCandidate} {found : WalkState}

/-- What an attempt is left with, over another registry. -/
def exitOn (health : ProviderHealth) : Except RungExit RungState → Except RungExit RungState
  | .ok rung => .ok (rung.on health)
  | .error (.nextCandidate state) => .error (.nextCandidate (state.on health))
  | .error (.leaveWalk state now) => .error (.leaveWalk (state.on health) now)
  | .error (.done walked) => .error (.done (walked.on health))

theorem leaveAttempt_on (exit : Except RungExit RungState) (health : ProviderHealth) :
    leaveAttempt walk env position candidate index (exitOn health exit) =
      (leaveAttempt walk env position candidate index exit).on health := by
  cases exit with
  | ok rung =>
      unfold leaveAttempt exitOn
      dsimp only
      split
      · rfl
      · rfl
  | error exit => cases exit <;> rfl

theorem backOff_on (same : found = state.on health) (backoffMs wait : Nat) (attempt : Try) :
    backOff walk env found backoffMs wait attempt =
      exitOn health (backOff walk env state backoffMs wait attempt) := by
  subst same
  unfold backOff
  split
  · rfl
  · rfl

theorem afterFailure_on (same : found = state.on health) (kind : FailureClass)
    (err : UpstreamError) (backoffMs : Nat) (attempt : Try) :
    afterFailure walk env found kind err backoffMs index attempt =
      exitOn health (afterFailure walk env state kind err backoffMs index attempt) := by
  have wait := backOff_on walk env same backoffMs
    (computeBackoff backoffMs err) attempt
  subst same
  unfold afterFailure
  cases kind with
  | contextWindow rateLimited =>
      have messages : (state.on health).effectiveMessages = state.effectiveMessages := rfl
      dsimp only
      rw [messages]
      split
      · rfl
      · rfl
  | retryable | rateLimited | rateLimitedNonRetryable | nonRetryable | retentionAttestation =>
      dsimp only
      split
      · rfl
      · split
        · rfl
        · split
          · exact wait
          · rfl

theorem serveCompletion_on (candidate : ProviderCandidate) (state : WalkState) (response : ChatResponse) (attemptNo : Nat)
    (started now : Moment) :
    ∃ rows, RowsOf candidate.definition rows ∧ ∀ health,
      serveCompletion walk env (state.on health) candidate response attemptNo started now =
        (serveCompletion walk env state candidate response attemptNo started now).on
          (health.observeAll rows) := by
  cases reported : OpenAiUsage.tryFromProvider response.usage with
  | none =>
      refine ⟨_, RowsOf.buildAttempt _ now.instant attemptNo "ok" false started now .unknown false,
        fun health => ?_⟩
      simp only [serveCompletion, reported]
      rfl
  | some usage =>
      refine ⟨_, RowsOf.buildAttempt _ now.instant attemptNo "ok" true started now
        (.measured usage) false, fun health => ?_⟩
      simp only [serveCompletion, reported]
      rfl

/-- A call of the buffered walk records at most the candidate's own row, whatever the
    registry. -/
theorem attemptCandidate_on (position index : Nat) (candidate : ProviderCandidate) (rung : RungState) :
    ∃ rows, RowsOf candidate.definition rows ∧ ∀ health,
      attemptCandidate walk env.alone position candidate index () (rung.on health) =
        exitOn (health.observeAll rows)
          (attemptCandidate walk env.alone position candidate index () rung) := by
  have lone : ∀ health, (rung.on health).walk.meet (env.alone.attempt position index).observed =
      rung.walk.on health := fun _ => rfl
  have lone' : rung.walk.meet (env.alone.attempt position index).observed = rung.walk := rfl
  unfold attemptCandidate
  simp only [lone, lone']
  generalize env.alone.attempt position index = attempt
  cases remainingUpstreamTime env.alone.started attempt.start with
  | none => exact ⟨[], .nil _, fun health => rfl⟩
  | some remaining =>
      have row := fun outcome tokens => RowsOf.buildAttempt candidate.definition
        attempt.finish.instant (rung.walk.attempts.rows.length + 1) outcome false attempt.start
        attempt.finish tokens false
      cases attempt.call with
      | shutdown started =>
          cases started with
          | false => exact ⟨[], .nil _, fun health => rfl⟩
          | true => exact ⟨_, row "aborted" .unknown, fun health => rfl⟩
      | elapsed => exact ⟨_, row "timeout" .unknown, fun health => rfl⟩
      | answered response =>
          dsimp only
          split
          · refine ⟨_, row "validation_failed"
              ((OpenAiUsage.tryFromProvider response.usage).elim .unknown AttemptTokens.measured),
              fun health => ?_⟩
            apply backOff_on
            rfl
          · obtain ⟨rows, own, served⟩ := serveCompletion_on walk env.alone candidate
              (rung.walk.recordCall candidate position rung.walk.attempts) response
              (rung.walk.attempts.rows.length + 1) attempt.start attempt.finish
            exact ⟨rows, own, fun health => congrArg (Except.error ∘ RungExit.done) (served health)⟩
      | failed err =>
          refine ⟨_, row (classify err rung.walk.contextTruncated).outcome .unknown,
            fun health => ?_⟩
          apply afterFailure_on
          rfl

end Attempt

section Dispatch

variable (walk : WalkRequest) (env : StreamSurroundings) {position : Nat}
  {candidate : ProviderCandidate}

/-- What a dispatch is left with, over another registry. -/
def dispatchOn (health : ProviderHealth) : Except Walked StreamState → Except Walked StreamState
  | .ok state => .ok (state.on health)
  | .error walked => .error (walked.on health)

theorem settleStreamInterruption_on {state found : StreamState} (same : found = state.on health)
    (tried : Option TierCandidate) (usage : Option OpenAiUsage) (features : RequestFeatures)
    (closed : Bool) (interruption : StreamInterruption) (now : Moment) :
    settleStreamInterruption walk env found tried usage features closed interruption now =
      (settleStreamInterruption walk env state tried usage features closed interruption now).on
        health := by
  subst same
  rfl

theorem breakStream_on (state : StreamState) (locals : StreamLocals) (err : Option UpstreamError)
    (attemptNo : Nat) (attempt : StreamTry) :
    ∃ rows, RowsOf candidate.definition rows ∧ ∀ health,
      breakStream walk env (state.on health) position candidate locals err attemptNo attempt =
        dispatchOn (health.observeAll rows)
          (breakStream walk env state position candidate locals err attemptNo attempt) := by
  unfold breakStream
  dsimp only
  split
  · exact ⟨_, RowsOf.buildAttempt candidate.definition attempt.finish.instant attemptNo _ _
      attempt.start attempt.finish _ _, fun health => rfl⟩
  · exact ⟨_, RowsOf.buildAttempt candidate.definition attempt.finish.instant attemptNo _ _
      attempt.start attempt.finish _ _, fun health => rfl⟩

theorem completeSyntheticStream_on (candidate : ProviderCandidate) (state : StreamState) (response : ChatResponse)
    (attemptNo : Nat) (attempt : StreamTry) :
    ∃ rows, RowsOf candidate.definition rows ∧ ∀ health,
      completeSyntheticStream walk env (state.on health) candidate response attemptNo attempt =
        (completeSyntheticStream walk env state candidate response attemptNo attempt).on
          (health.observeAll rows) := by
  have row := fun served tokens => RowsOf.buildAttempt candidate.definition
    attempt.finish.instant attemptNo "ok" served attempt.start attempt.finish tokens false
  cases reported : OpenAiUsage.tryFromProvider response.usage with
  | none =>
      refine ⟨_, row false .unknown, fun health => ?_⟩
      simp only [completeSyntheticStream, reported]
      rfl
  | some usage =>
      refine ⟨_, row true (.measured usage), fun health => ?_⟩
      simp only [completeSyntheticStream, reported]
      rfl

theorem finishSuccessfulStream_on (candidate : ProviderCandidate) (state : StreamState) (usage : Option OpenAiUsage)
    (attemptNo : Nat) (status : Int) (attempt : StreamTry) :
    ∃ rows, RowsOf candidate.definition rows ∧ ∀ health,
      finishSuccessfulStream walk env (state.on health) candidate usage attemptNo status attempt =
        (finishSuccessfulStream walk env state candidate usage attemptNo status attempt).on
          (health.observeAll rows) := by
  have row := fun tokens => RowsOf.buildAttempt candidate.definition attempt.finish.instant
    attemptNo "ok" state.delivery.modelOutputSent attempt.start attempt.finish tokens false
  cases usage with
  | none => exact ⟨_, row .unknown, fun health => rfl⟩
  | some usage => exact ⟨_, row (.measured usage), fun health => rfl⟩

theorem streamCandidate_on (position : Nat) (candidate : ProviderCandidate) (state : StreamState) (attemptNo : Nat) (attempt : StreamTry) :
    ∃ rows, RowsOf candidate.definition rows ∧ ∀ health,
      streamCandidate walk env (state.on health) position candidate attemptNo attempt =
        dispatchOn (health.observeAll rows)
          (streamCandidate walk env state position candidate attemptNo attempt) := by
  unfold streamCandidate
  dsimp only
  have clients : ∀ health : ProviderHealth,
      (state.on health).clientConnected = state.clientConnected := fun _ => rfl
  have deliveries : ∀ health : ProviderHealth, (state.on health).delivery = state.delivery :=
    fun _ => rfl
  simp only [clients, deliveries]
  generalize attempt.steps.foldl StreamLocals.step _ = locals
  have row := fun outcome => RowsOf.buildAttempt candidate.definition
    attempt.finish.instant attemptNo outcome locals.delivery.modelOutputSent attempt.start
    attempt.finish (attemptTokens locals.usage locals.estimatedOutput)
    (locals.usage.isNone && attemptTokens locals.usage locals.estimatedOutput ≠ .unknown)
  cases attempt.stop with
  | timeout =>
      refine ⟨_, row "timeout", fun health => ?_⟩
      apply congrArg Except.error
      apply settleStreamInterruption_on
      rfl
  | shutdown =>
      refine ⟨_, row "aborted", fun health => ?_⟩
      apply congrArg Except.error
      apply settleStreamInterruption_on
      rfl
  | final =>
      obtain ⟨rows, own, same⟩ := finishSuccessfulStream_on walk env candidate
        { state with
          dispatches := state.dispatches ++ [{ position, failure := none }]
          delivery :=
            if locals.clientConnected then
              (locals.delivery.ensureOpen locals.roleSent attempt.opened).2
            else locals.delivery }
        locals.usage attemptNo
        (if locals.clientConnected &&
            (locals.delivery.ensureOpen locals.roleSent attempt.opened).1 && !attempt.closed then 200
          else 499)
        attempt
      exact ⟨rows, own, fun health => congrArg Except.error (same health)⟩
  | ended => exact breakStream_on walk env state locals none attemptNo attempt
  | failed err => exact breakStream_on walk env state locals (some err) attemptNo attempt

theorem bufferCandidate_on (position : Nat) (candidate : ProviderCandidate) (state : StreamState) (attemptNo : Nat) (attempt : StreamTry) :
    ∃ rows, RowsOf candidate.definition rows ∧ ∀ health,
      bufferCandidate walk env (state.on health) position candidate attemptNo attempt =
        dispatchOn (health.observeAll rows)
          (bufferCandidate walk env state position candidate attemptNo attempt) := by
  have row := fun outcome => RowsOf.buildAttempt candidate.definition
    attempt.finish.instant attemptNo outcome false attempt.start attempt.finish .unknown false
  unfold bufferCandidate
  dsimp only
  cases attempt.call with
  | shutdown started =>
      cases started with
      | false => exact ⟨[], .nil _, fun health => rfl⟩
      | true => exact ⟨_, row "aborted", fun health => rfl⟩
  | elapsed => exact ⟨_, row "timeout", fun health => rfl⟩
  | answered response =>
      obtain ⟨rows, own, same⟩ := completeSyntheticStream_on walk env candidate
        { state with
          lastCandidate := some candidate.definition
          dispatches := state.dispatches ++ [{ position, failure := none }] } response attemptNo
        attempt
      exact ⟨rows, own, fun health => congrArg Except.error (same health)⟩
  | failed err => exact ⟨_, row (classify err false).outcome, fun health => rfl⟩

theorem callStreaming_on (position : Nat) (candidate : ProviderCandidate) (state : StreamState) :
    ∃ rows, RowsOf candidate.definition rows ∧ ∀ health,
      callStreaming walk env position candidate (state.on health) =
        dispatchOn (health.observeAll rows) (callStreaming walk env position candidate state) := by
  unfold callStreaming
  dsimp only
  cases remainingUpstreamTime env.started (env.attempt position).start with
  | none => exact ⟨[], .nil _, fun health => rfl⟩
  | some remaining =>
      dsimp only
      split
      · obtain ⟨rows, own, same⟩ := streamCandidate_on walk env position candidate
          { state with lastCandidate := some candidate.definition }
          (state.attempts.rows.length + 1) (env.attempt position)
        exact ⟨rows, own, fun health => same health⟩
      · obtain ⟨rows, own, same⟩ := bufferCandidate_on walk env position candidate state
          (state.attempts.rows.length + 1) (env.attempt position)
        exact ⟨rows, own, fun health => same health⟩

theorem leaveDispatch_on (exit : Except Walked StreamState) (health : ProviderHealth) :
    leaveDispatch walk position (dispatchOn health exit) =
      (leaveDispatch walk position exit).on health := by
  cases exit with
  | ok state => rfl
  | error walked => rfl

end Dispatch

/-! ## Arriving at a candidate -/

section Arrive

variable (walk : WalkRequest) {health other : ProviderHealth}

theorem exhaustStream_on (env : StreamSurroundings) (state : StreamState) (now : Moment)
    (health : ProviderHealth) :
    exhaustStream walk env (state.on health) now = (exhaustStream walk env state now).on health := by
  have last : (state.on health).lastCandidate = state.lastCandidate := rfl
  unfold exhaustStream
  rw [last]
  cases state.lastCandidate with
  | none => rfl
  | some candidate => rfl

theorem WalkState.skip_registry (state : WalkState) (candidate : TierCandidate) (now : Moment)
    (h : outcome = "policy_skipped" ∨ outcome = "health_skipped") :
    (state.skip candidate outcome now).attempts.health = state.attempts.health :=
  observe_skipped state.attempts.health now.instant (state.attempts.rows.length + 1) candidate now h

theorem StreamState.skip_registry (state : StreamState) (candidate : TierCandidate) (now : Moment)
    (h : outcome = "policy_skipped" ∨ outcome = "health_skipped") :
    (state.skip candidate outcome now).attempts.health = state.attempts.health :=
  observe_skipped state.attempts.health now.instant (state.attempts.rows.length + 1) candidate now h

theorem skipsCandidate_eq_some {env : Surroundings}
    (h : skipsCandidate walk env position candidate state = some outcome) :
    outcome = "policy_skipped" ∨ outcome = "health_skipped" := by
  unfold skipsCandidate at h
  split at h
  · cases h
    exact .inl rfl
  · split at h
    · cases h
      exact .inr rfl
    · cases h

/-- Arriving at a candidate is no evidence about any. -/
theorem arriveBuffered_registry (env : Surroundings) (position : Nat) (state : WalkState)
    (found : ProviderHealth) :
    (arriveBuffered walk env position state).registry found = state.attempts.health := by
  unfold arriveBuffered
  cases walk.candidates[position]? with
  | none => rfl
  | some candidate =>
      cases skips : skipsCandidate walk env position candidate state with
      | none =>
          simp only [skips]
          rfl
      | some outcome =>
          simp only [skips]
          exact state.skip_registry _ _ (skipsCandidate_eq_some walk skips)

theorem arriveStreaming_registry (env : StreamSurroundings) (position : Nat) (state : StreamState)
    (found : ProviderHealth) :
    (arriveStreaming walk env position state).registry found = state.attempts.health := by
  unfold arriveStreaming
  cases walk.candidates[position]? with
  | none => exact congrArg Walked.health (exhaustStream_on walk env state _ state.attempts.health)
  | some candidate =>
      dsimp only
      split
      · exact state.skip_registry _ _ (.inl rfl)
      · split
        · rfl
        · split
          · exact state.skip_registry _ _ (.inr rfl)
          · rfl

/-- Registries that agree on the rungs of a walk send it the same way. -/
theorem arriveBuffered_agree (env : Surroundings) (position : Nat) (state : WalkState)
    (agree : ∀ candidate ∈ walk.candidates,
      health candidate.definition.rung = other candidate.definition.rung) :
    (arriveBuffered walk env position (state.on health)).on .empty =
      (arriveBuffered walk env position (state.on other)).on .empty := by
  unfold arriveBuffered
  cases found : walk.candidates[position]? with
  | none => rfl
  | some candidate =>
      have reads := ProviderHealth.shouldSkip_congr (env.arrival position).now.instant
        (agree candidate (List.mem_of_getElem? found))
      have verdict : skipsCandidate walk env position candidate (state.on health) =
          skipsCandidate walk env position candidate (state.on other) := by
        show (if _ then _ else if (health.shouldSkip _ _ && _) = true then _ else _) = _
        rw [reads]
        rfl
      dsimp only
      rw [← verdict]
      cases skipsCandidate walk env position candidate (state.on health) with
      | none => rfl
      | some outcome => rfl

theorem arriveStreaming_agree (env : StreamSurroundings) (position : Nat) (state : StreamState)
    (agree : ∀ candidate ∈ walk.candidates,
      health candidate.definition.rung = other candidate.definition.rung) :
    (arriveStreaming walk env position (state.on health)).on .empty =
      (arriveStreaming walk env position (state.on other)).on .empty := by
  unfold arriveStreaming
  cases found : walk.candidates[position]? with
  | none =>
      dsimp only
      rw [exhaustStream_on, exhaustStream_on]
      rfl
  | some candidate =>
      have reads : (state.on health).attempts.health.shouldSkip (env.arrival position).now.instant
            candidate.definition =
          (state.on other).attempts.health.shouldSkip (env.arrival position).now.instant
            candidate.definition :=
        ProviderHealth.shouldSkip_congr _ (agree candidate (List.mem_of_getElem? found))
      have armed : (state.on health).byokFallbackArmed = (state.on other).byokFallbackArmed := rfl
      have last : (state.on health).lastCandidate = (state.on other).lastCandidate := rfl
      dsimp only
      rw [reads, armed, last]
      split
      · rfl
      · split
        · rfl
        · split
          · rfl
          · rfl

end Arrive

/-! ## Ordering a route -/

theorem partitionFirst_congr {test test' : ProviderCandidate → Bool}
    {candidates : List ProviderCandidate}
    (h : ∀ candidate ∈ candidates, test candidate = test' candidate) :
    partitionFirst test candidates = partitionFirst test' candidates := by
  have negated : ∀ candidate ∈ candidates, (!test candidate) = !test' candidate := by
    intro candidate member
    rw [h candidate member]
  unfold partitionFirst
  rw [List.filter_congr h, List.filter_congr negated]

section Ordering

variable {catalog : TierCatalog} {services : InferenceServices} {key : KeyPolicy}
  {request : InferenceRequest} {health other : ProviderHealth}

/-- Registries that agree on the rungs of a route put them in one order. -/
theorem orderCandidates_agree (priority : Priority) (context : OrderingContext) (now : Instant)
    {candidates : List ProviderCandidate}
    (agree : ∀ candidate ∈ candidates,
      health candidate.definition.rung = other candidate.definition.rung) :
    orderCandidates priority context health now candidates =
      orderCandidates priority context other now candidates := by
  have reads : ∀ candidate ∈ candidates,
      (!health.shouldSkip now candidate.definition) = !other.shouldSkip now candidate.definition := by
    intro candidate member
    rw [ProviderHealth.shouldSkip_congr now (agree candidate member)]
  cases priority with
  | cost =>
      have priced : ∀ candidate ∈ orderByExpectedCost context candidates,
          (!health.shouldSkip now candidate.definition) =
            !other.shouldSkip now candidate.definition := by
        intro candidate member
        exact reads candidate ((orderByExpectedCost_perm context candidates).mem_iff.mp member)
      exact congrArg (partitionFirst _) (partitionFirst_congr priced)
  | balanced => exact partitionFirst_congr reads
  | success => exact partitionFirst_congr reads

theorem providerRoute_health (health : ProviderHealth) (route : CatalogRoute) :
    providerRoute { services with health } request route = providerRoute services request route :=
  rfl

theorem dispatchOrder_agree {route : CatalogRoute} {built : ProviderRoute} (priority : Priority)
    (assembled : providerRoute services request route = .ok built)
    (agree : ∀ candidate ∈ route.resolved.candidates, health candidate.rung = other candidate.rung) :
    dispatchOrder { services with health := health } request route priority built.candidates =
      dispatchOrder { services with health := other } request route priority built.candidates := by
  have selection :
      selectionOrder { services with health := health } request route priority built.candidates =
        selectionOrder { services with health := other } request route priority built.candidates :=
    orderCandidates_agree priority _ services.now fun candidate member =>
      agree _ (providerRoute_definition assembled member)
  unfold dispatchOrder
  rw [selection]

/-- What a request is admitted to depends on the registry at its rungs only. -/
theorem inference_agree
    (agree : ∀ route suffix,
      routeRequest catalog services.unifiedIdsEnabled key request = .ok (route, suffix) →
        ∀ candidate ∈ route.resolved.candidates, health candidate.rung = other candidate.rung) :
    inference { services with health := health } key request catalog =
      inference { services with health := other } key request catalog := by
  unfold inference
  dsimp only
  cases routed : routeRequest catalog services.unifiedIdsEnabled key request with
  | error error => rfl
  | ok found =>
      obtain ⟨route, suffix⟩ := found
      have sized : ∀ health priority,
          sizeRequest { services with health := health } request route priority =
            sizeRequest services request route priority := fun _ _ => rfl
      dsimp only
      rw [sized health, sized other]
      cases sizeRequest services request route _ with
      | error error => rfl
      | ok sizing =>
          unfold admitRoute
          rw [providerRoute_health health, providerRoute_health other]
          cases assembled : providerRoute services request route with
          | error error => rfl
          | ok built =>
              dsimp only
              rw [dispatchOrder_agree _ assembled (agree route suffix routed)]
              rfl

end Ordering

/-! ## One move -/

@[simp] theorem Standing.on_on (standing : Standing) (health other : ProviderHealth) :
    (standing.on health).on other = standing.on other := by
  cases standing <;> rfl

@[simp] theorem Standing.order_on (standing : Standing) (health : ProviderHealth) :
    (standing.on health).order = standing.order := by
  cases standing <;> rfl

theorem leaveAttempt_order (walk : WalkRequest) (env : Surroundings) (position : Nat)
    (candidate : ProviderCandidate) (index : Nat) (exit : Except RungExit RungState) :
    (leaveAttempt walk env position candidate index exit).order = walk.candidates := by
  cases exit with
  | ok rung =>
      unfold leaveAttempt
      dsimp only
      split <;> rfl
  | error exit => cases exit <;> rfl

theorem leaveDispatch_order (walk : WalkRequest) (position : Nat)
    (exit : Except Walked StreamState) :
    (leaveDispatch walk position exit).order = walk.candidates := by
  cases exit <;> rfl

theorem arriveBuffered_order (walk : WalkRequest) (env : Surroundings) (position : Nat)
    (state : WalkState) : (arriveBuffered walk env position state).order = walk.candidates := by
  unfold arriveBuffered
  cases walk.candidates[position]? with
  | none => rfl
  | some candidate =>
      dsimp only
      split <;> rfl

theorem arriveStreaming_order (walk : WalkRequest) (env : StreamSurroundings) (position : Nat)
    (state : StreamState) : (arriveStreaming walk env position state).order = walk.candidates := by
  unfold arriveStreaming
  cases walk.candidates[position]? with
  | none => rfl
  | some candidate =>
      dsimp only
      split
      · rfl
      · split
        · rfl
        · split <;> rfl

section Move

variable {serving : Serving} {catalog : TierCatalog} {health other : ProviderHealth}

/-- The rungs a request's walk takes are among those its route names. -/
def Standing.Routed (serving : Serving) (catalog : TierCatalog) (standing : Standing) : Prop :=
  ∀ candidate ∈ standing.order, candidate.definition ∈ serving.rungs catalog

theorem rungs_eq {route : CatalogRoute} {suffix : Option Priority}
    (found : routeRequest catalog serving.services.unifiedIdsEnabled serving.key serving.request =
      .ok (route, suffix)) : serving.rungs catalog = route.resolved.candidates := by
  unfold Serving.rungs
  rw [found]

/-- A request is sent to rungs of its own route. -/
theorem chatCompletions_routed :
    (serving.chatCompletions catalog health).Routed serving catalog := by
  unfold Serving.chatCompletions
  cases answered : (inference { serving.services with health } serving.key serving.request
      catalog) with
  | mk effects answer =>
      cases answer with
      | error error =>
          intro candidate member
          cases member
      | ok admitted =>
          obtain ⟨suffix, sizing, built, came⟩ := inference_ok answered
          have candidates : ∀ candidate ∈ admitted.candidates,
              candidate.definition ∈ serving.rungs catalog := by
            intro candidate member
            obtain ⟨own, carried, same⟩ := came.definition member
            rw [rungs_eq came.routed, ← same]
            exact List.mem_map_of_mem carried
          dsimp only
          split
          · exact candidates
          · exact candidates

/-- A request stays on the rungs it was sent to. -/
theorem move_routed (routed : standing.Routed serving catalog) :
    (serving.move catalog health standing).Routed serving catalog := by
  have keeps : ∀ after : Standing, after.order = standing.order → after.Routed serving catalog := by
    intro after same candidate member
    exact routed candidate (same ▸ member)
  cases standing with
  | received => exact chatCompletions_routed
  | refused error => exact routed
  | visiting walk position state => exact keeps _ (arriveBuffered_order ..)
  | attempting walk position candidate index rung => exact keeps _ (leaveAttempt_order ..)
  | arriving walk position state => exact keeps _ (arriveStreaming_order ..)
  | dispatching walk position candidate state => exact keeps _ (leaveDispatch_order ..)
  | finished walk walked => exact routed

/-- The registry a request is admitted over is the one it leaves. -/
theorem chatCompletions_registry :
    (serving.chatCompletions catalog health).registry health = health := by
  unfold Serving.chatCompletions
  cases (inference { serving.services with health } serving.key serving.request catalog).2 with
  | error error => rfl
  | ok admitted =>
      dsimp only
      split <;> rfl

theorem chatCompletions_agree
    (agree : ∀ candidate ∈ serving.rungs catalog, health candidate.rung = other candidate.rung) :
    (serving.chatCompletions catalog health).on .empty =
      (serving.chatCompletions catalog other).on .empty := by
  have same :
      inference { serving.services with health := health } serving.key serving.request catalog =
        inference { serving.services with health := other } serving.key serving.request catalog :=
    inference_agree fun route suffix found candidate member =>
      agree candidate (rungs_eq found ▸ member)
  unfold Serving.chatCompletions
  rw [same]
  cases (inference { serving.services with health := other } serving.key serving.request
      catalog).2 with
  | error error => rfl
  | ok admitted =>
      dsimp only
      split <;> rfl

/-- What a request's move comes to over two registries that agree on its rungs: the same
    rows recorded in both, and the same place reached. -/
structure MovesAlike (serving : Serving) (catalog : TierCatalog) (health other : ProviderHealth)
    (standing : Standing) (rows : List (Instant × AttemptRecord)) : Prop where
  own : ∀ row ∈ rows, ∃ candidate ∈ standing.calling,
    (row.2.upstreamProvider, row.2.upstreamModel) = candidate.definition.rung
  left : (serving.move catalog health standing).registry health = health.observeAll rows
  right : (serving.move catalog other standing).registry other = other.observeAll rows
  place : (serving.move catalog health standing).on .empty =
    (serving.move catalog other standing).on .empty

theorem attemptBuffered_registry (walk : WalkRequest) (env : Surroundings) (position : Nat)
    (candidate : ProviderCandidate) (index : Nat) (rung : RungState)
    (found left : ProviderHealth) :
    ((attemptBuffered walk env position candidate index rung).on left).registry found = left := by
  unfold attemptBuffered
  cases attemptCandidate walk env position candidate index () rung with
  | ok rung =>
      unfold leaveAttempt
      dsimp only
      split <;> rfl
  | error exit => cases exit <;> rfl

theorem dispatchStreaming_registry (walk : WalkRequest) (env : StreamSurroundings)
    (position : Nat) (candidate : ProviderCandidate) (state : StreamState)
    (found left : ProviderHealth) :
    ((dispatchStreaming walk env position candidate state).on left).registry found = left := by
  unfold dispatchStreaming
  cases callStreaming walk env position candidate state <;> rfl

theorem move_alike
    (agree : ∀ candidate ∈ serving.rungs catalog, health candidate.rung = other candidate.rung)
    (walked : ∀ candidate ∈ standing.order,
      health candidate.definition.rung = other candidate.definition.rung) :
    ∃ rows, MovesAlike serving catalog health other standing rows := by
  have none : ∀ row ∈ ([] : List (Instant × AttemptRecord)), ∃ candidate ∈ standing.calling,
      (row.2.upstreamProvider, row.2.upstreamModel) = candidate.definition.rung := by
    intro row hrow
    cases hrow
  cases standing with
  | received =>
      exact ⟨[], none, chatCompletions_registry, chatCompletions_registry,
        chatCompletions_agree agree⟩
  | refused error => exact ⟨[], none, rfl, rfl, rfl⟩
  | finished walk walked => exact ⟨[], none, rfl, rfl, rfl⟩
  | visiting walk position state =>
      exact ⟨[], none, arriveBuffered_registry .., arriveBuffered_registry ..,
        arriveBuffered_agree _ _ _ _ walked⟩
  | arriving walk position state =>
      exact ⟨[], none, arriveStreaming_registry .., arriveStreaming_registry ..,
        arriveStreaming_agree _ _ _ _ walked⟩
  | attempting walk position candidate index rung =>
      obtain ⟨rows, own, same⟩ := attemptCandidate_on walk serving.buffered position index candidate
        rung
      have moved : ∀ health : ProviderHealth,
          serving.move catalog health (.attempting walk position candidate index rung) =
            (attemptBuffered walk serving.buffered.alone position candidate index rung).on
              (health.observeAll rows) := by
        intro health
        exact (congrArg (leaveAttempt walk _ position candidate index) (same health)).trans
          (leaveAttempt_on ..)
      refine ⟨rows, fun row hrow => ⟨candidate, rfl, own row hrow⟩, ?_, ?_, ?_⟩
      · rw [moved, attemptBuffered_registry]
      · rw [moved, attemptBuffered_registry]
      · rw [moved, moved, Standing.on_on, Standing.on_on]
  | dispatching walk position candidate state =>
      obtain ⟨rows, own, same⟩ := callStreaming_on walk serving.streamed.alone position candidate
        state
      have moved : ∀ health : ProviderHealth,
          serving.move catalog health (.dispatching walk position candidate state) =
            (dispatchStreaming walk serving.streamed.alone position candidate state).on
              (health.observeAll rows) := by
        intro health
        exact (congrArg (leaveDispatch walk position) (same health)).trans (leaveDispatch_on ..)
      refine ⟨rows, fun row hrow => ⟨candidate, rfl, own row hrow⟩, ?_, ?_, ?_⟩
      · rw [moved, dispatchStreaming_registry]
      · rw [moved, dispatchStreaming_registry]
      · rw [moved, moved, Standing.on_on, Standing.on_on]

end Move

/-! ## The process -/

namespace Process

variable {catalog : TierCatalog} {requests : Nat → Serving} {process : Process} {who : Nat}

theorem move_standing_self : (process.move catalog requests who).standing who =
    ((requests who).move catalog process.health (process.standing who)).on .empty := by
  exact Function.update_self ..

theorem move_standing_other {other : Nat} (h : other ≠ who) :
    (process.move catalog requests who).standing other = process.standing other :=
  Function.update_of_ne h ..

/-- What a move records of the rungs is one candidate's, the one it called. -/
theorem exists_records (catalog : TierCatalog) (requests : Nat → Serving) (process : Process)
    (who : Nat) : ∃ rows, process.Records catalog requests who rows ∧
      ∀ row ∈ rows, ∃ candidate ∈ (process.standing who).calling,
        (row.2.upstreamProvider, row.2.upstreamModel) = candidate.definition.rung := by
  obtain ⟨rows, alike⟩ : ∃ rows, MovesAlike (requests who) catalog process.health process.health
      (process.standing who) rows := move_alike (fun _ _ => rfl) fun _ _ => rfl
  exact ⟨rows, alike.left, alike.own⟩

/-- A move that calls nothing is no evidence. -/
theorem records_nil (idle : (process.standing who).calling = none) :
    process.Records catalog requests who [] := by
  obtain ⟨rows, records, own⟩ := exists_records catalog requests process who
  cases rows with
  | nil => exact records
  | cons row rest =>
      obtain ⟨candidate, calling, -⟩ := own row List.mem_cons_self
      rw [idle] at calling
      cases calling

/-- A call touches no rung but the one called. -/
theorem move_health_other (calling : (process.standing who).calling = some candidate)
    {key : String × String} (h : candidate.definition.rung ≠ key) :
    (process.move catalog requests who).health key = process.health key := by
  obtain ⟨rows, records, own⟩ := exists_records catalog requests process who
  have rowsOf : RowsOf candidate.definition rows := by
    intro row hrow
    obtain ⟨called, found, same⟩ := own row hrow
    rw [calling] at found
    cases found
    exact same
  rw [records]
  exact ProviderHealth.observeAll_other rowsOf h

end Process

end ZeroRouter
