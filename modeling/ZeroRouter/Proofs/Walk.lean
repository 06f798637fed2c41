import ZeroRouter.Api.Stream

/-!
# What one pass of a walk does

The rules by which a property of a walk is proved: what one upstream call records,
and from it what a candidate's whole retry budget and a whole walk keep.
-/

namespace ZeroRouter

variable {row : AttemptRecord}

/-- One upstream call of the buffered walk, as it changes the walk: a row recorded,
    the call remembered, and the house twin armed if the call failed that way. -/
structure Recorded (position : Nat) (candidate : ProviderCandidate) (before after : WalkState) :
    Prop where
  row : ∃ now row, after.attempts = before.attempts.push now row ∧ row.served = false ∧
    row.attemptNo = min ((before.attempts.rows.length + 1 : Nat) : Int) i16Max
  call : ∃ failure : Option Failure,
    after.dispatches = before.dispatches ++ [⟨position, failure⟩] ∧
    after.byokFallbackArmed =
      failure.elim before.byokFallbackArmed (armFallback candidate · before.byokFallbackArmed)
  last : after.lastCandidate = some candidate.definition

variable {request : WalkRequest} {env : Surroundings} {position : Nat}
  {candidate : ProviderCandidate}

/-- What has to be shown of a property `keep`, indexed by the calls made to the
    candidate so far, and of a result `left` for them to hold of an attempt loop. -/
structure AttemptRule (request : WalkRequest) (env : Surroundings) (position : Nat)
    (candidate : ProviderCandidate) (keep : Nat → WalkState → Prop) (left : Walked → Prop) :
    Prop where
  meet : ∀ {n s} (observed), keep n s → keep n (s.meet observed)
  repair : ∀ {n s} (messages), keep n s →
    keep n { s with effectiveMessages := messages, contextTruncated := true }
  recorded : ∀ {n s s'}, n ≤ candidateRetries → keep n s → Recorded position candidate s s' →
    keep (n + 1) s'
  cut : ∀ {n s} (terminal now), keep n s → terminal.ending.interrupted = true →
    left (settleWalkTerminal request env s terminal now)
  exhaust : ∀ {n s} (now), keep (n + 1) s → left (exhaustWalk request env s now)
  serve : ∀ {n s} (response started now), n ≤ candidateRetries → keep n s →
    left (serveCompletion request env (s.recordCall candidate position s.attempts) candidate
      response (s.attempts.rows.length + 1) started now)

/-- What a pass that leaves the attempt loop leaves it with. -/
def RungExit.Meets (request : WalkRequest) (env : Surroundings) (keep : WalkState → Prop)
    (left : Walked → Prop) : RungExit → Prop
  | .nextCandidate state => keep state
  | .leaveWalk state now => left (exhaustWalk request env state now)
  | .done walked => left walked

theorem recordCall_recorded (state : WalkState) (now : Instant) (hserved : row.served = false)
    (hno : row.attemptNo = min ((state.attempts.rows.length + 1 : Nat) : Int) i16Max) :
    Recorded position candidate state
      (state.recordCall candidate position (state.attempts.push now row)) where
  row := ⟨now, row, rfl, hserved, hno⟩
  call := ⟨none, rfl, rfl⟩
  last := rfl

theorem recordFailure_recorded (state : WalkState) (kind : FailureClass) (err : UpstreamError)
    (now : Moment) (hserved : row.served = false)
    (hno : row.attemptNo = min ((state.attempts.rows.length + 1 : Nat) : Int) i16Max) :
    Recorded position candidate state
      (state.recordFailure candidate kind err row position now) where
  row := ⟨now.instant, row, rfl, hserved, hno⟩
  call := ⟨some (.chat kind), rfl, rfl⟩
  last := rfl

namespace AttemptRule

variable {keep : Nat → WalkState → Prop} {left : Walked → Prop} {state : WalkState} {n : Nat}

theorem backOff_ends (rule : AttemptRule request env position candidate keep left)
    (h : keep n state) (backoffMs wait : Nat) (attempt : Try) :
    Loop.Ends (RungExit.Meets request env (keep n) left) (fun rung => keep n rung.walk)
      (backOff request env state backoffMs wait attempt) := by
  unfold backOff
  by_cases hslept : attempt.slept wait = true
  · rw [if_pos hslept]
    exact h
  · rw [if_neg hslept]
    exact rule.cut .shutdown attempt.finish h rfl

theorem afterFailure_ends (rule : AttemptRule request env position candidate keep left)
    (h : keep (n + 1) state) (kind : FailureClass) (err : UpstreamError) (backoffMs index : Nat)
    (attempt : Try) :
    Loop.Ends (RungExit.Meets request env (keep (n + 1)) left)
      (fun rung => keep (n + 1) rung.walk)
      (afterFailure request env state kind err backoffMs index attempt) := by
  have wait := rule.backOff_ends h backoffMs (computeBackoff backoffMs err) attempt
  unfold afterFailure
  cases kind with
  | contextWindow rateLimited =>
      dsimp only
      split
      · exact rule.repair _ h
      · exact rule.exhaust attempt.finish h
  | retryable | rateLimited | rateLimitedNonRetryable | nonRetryable | retentionAttestation =>
      dsimp only
      split
      · exact h
      · split
        · exact h
        · split
          · exact wait
          · exact h

/-- One pass of the attempt loop. -/
theorem attemptCandidate_ends (rule : AttemptRule request env position candidate keep left)
    {index : Nat} (hindex : index ≤ candidateRetries) {rung : RungState}
    (h : keep index rung.walk) :
    Loop.Ends (RungExit.Meets request env (keep (index + 1)) left)
      (fun rung => keep (index + 1) rung.walk)
      (attemptCandidate request env position candidate index () rung) := by
  have hmet := rule.meet (env.attempt position index).observed h
  unfold attemptCandidate
  dsimp only
  generalize rung.walk.meet (env.attempt position index).observed = state at hmet ⊢
  generalize env.attempt position index = attempt at hmet ⊢
  cases remainingUpstreamTime env.started attempt.start with
  | none => exact rule.cut .timeout attempt.start hmet rfl
  | some remaining =>
      have called : ∀ (outcome : String) (tokens : AttemptTokens),
          keep (index + 1) (state.recordCall candidate position
            (state.attempts.push attempt.finish.instant
              (buildAttempt (state.attempts.rows.length + 1) candidate.definition outcome false
                attempt.start attempt.finish tokens false))) := by
        intro outcome tokens
        exact rule.recorded hindex hmet
          (recordCall_recorded state _ (buildAttempt_served ..) (buildAttempt_attemptNo ..))
      cases attempt.call with
      | shutdown started =>
          cases started with
          | false => exact rule.cut .shutdown attempt.finish hmet rfl
          | true => exact rule.cut .shutdown attempt.finish (called _ _) rfl
      | elapsed => exact rule.cut .timeout attempt.finish (called _ _) rfl
      | answered response =>
          dsimp only
          split
          · exact rule.backOff_ends (called _ _) _ _ attempt
          · exact rule.serve response attempt.start attempt.finish hindex hmet
      | failed err =>
          dsimp only
          exact rule.afterFailure_ends
            (rule.recorded hindex hmet
              (recordFailure_recorded state _ err attempt.finish (buildAttempt_served ..)
                (buildAttempt_attemptNo ..))) _ err _ _ attempt

/-- A candidate's whole retry budget: the walk goes on having called it at least
    once, or it ends. -/
theorem runAttempts_ends (rule : AttemptRule request env position candidate keep left)
    (h : keep 0 state) :
    Loop.Ends left (fun state => ∃ n ≤ candidateRetries, keep (n + 1) state)
      (runAttempts request env position candidate state) := by
  have run := Loop.enumerate_ends (attemptCandidate request env position candidate)
    (RungExit.Meets request env (fun state => ∃ n ≤ candidateRetries, keep (n + 1) state) left)
    (fun n (rung : RungState) => keep n rung.walk)
    (List.replicate (candidateRetries + 1) ()) ?_
    (show keep 0 (⟨state, candidateBackoffMs⟩ : RungState).walk from h)
  · unfold runAttempts
    revert run
    cases Loop.enumerate (attemptCandidate request env position candidate) 0
        (List.replicate (candidateRetries + 1) ())
        { walk := state, backoffMs := candidateBackoffMs } with
    | ok rung =>
        intro run
        exact ⟨candidateRetries, le_refl _, by simpa using run⟩
    | error exit =>
        intro run
        cases exit with
        | nextCandidate state => exact run
        | leaveWalk state now => exact run
        | done walked => exact run
  · intro index x rung hx hkeep
    have hindex : index ≤ candidateRetries := by
      have := (List.getElem?_eq_some_iff.mp hx).1
      simp at this
      omega
    refine (rule.attemptCandidate_ends hindex hkeep).imp ?_ fun _ h => h
    intro exit hexit
    cases exit with
    | nextCandidate state => exact ⟨index, hindex, hexit⟩
    | leaveWalk state now => exact hexit
    | done walked => exact hexit

end AttemptRule

end ZeroRouter
