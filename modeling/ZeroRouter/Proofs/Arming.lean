import ZeroRouter.Proofs.Fallback

/-!
# The three places that arm a house twin

A failed call of a customer's rung opens the latch of its provider at one of three
places: the buffered walk's attempt loop, the streaming walk's buffered dispatch, and
its live stream.  The first two ask `classify`, the last asks
`isNonRetryableRateLimit` of the error itself; the classifier's earlier arms are where
the two part.
-/

namespace ZeroRouter

variable {err : UpstreamError} {request : WalkRequest} {position : Nat} {env : Surroundings}
  {after : WalkState} {index attemptNo : Nat} {state : StreamState} {attempt : StreamTry}

/-- The walk a pass of the attempt loop goes on with, if it does. -/
def walkAfter : Except RungExit RungState → Option WalkState
  | .ok rung => some rung.walk
  | .error (.nextCandidate state) => some state
  | .error (.leaveWalk state _) => some state
  | .error (.done _) => none

/-- One upstream failure of `candidate`'s rung with nothing delivered, at any of the
    three places: the latch it finds and the latch it leaves. -/
inductive Arming (candidate : ProviderCandidate) (err : UpstreamError) :
    List String → List String → Prop
  | buffered {request : WalkRequest} {env : Surroundings} {position index : Nat}
      {rung : RungState} {after : WalkState}
      (failed : (env.attempt position index).call = .failed err)
      (goes : walkAfter (attemptCandidate request env position candidate index () rung) =
        some after) :
      Arming candidate err rung.walk.byokFallbackArmed after.byokFallbackArmed
  | synthetic {request : WalkRequest} {env : StreamSurroundings} {position attemptNo : Nat}
      {state after : StreamState} {attempt : StreamTry} (failed : attempt.call = .failed err)
      (goes : bufferCandidate request env state position candidate attemptNo attempt =
        .ok after) :
      Arming candidate err state.byokFallbackArmed after.byokFallbackArmed
  | live {request : WalkRequest} {env : StreamSurroundings} {position attemptNo : Nat}
      {state after : StreamState} {attempt : StreamTry} (failed : attempt.stop = .failed err)
      (goes : streamCandidate request env state position candidate attemptNo attempt =
        .ok after) :
      Arming candidate err state.byokFallbackArmed after.byokFallbackArmed

/-- What the failure's text has to be for the three places to part: an account refusal
    that is retention-shaped or context-window shaped, or a rate limit that is none and
    that reads as another client error. -/
structure UpstreamError.Divides (err : UpstreamError) : Prop where
  rateLimited : err.isRateLimited = true
  shape :
    err.isNonRetryableRateLimit = true ∧
        (err.isRetentionAttestationFailure = true ∨ err.isContextWindowExceeded = true) ∨
      err.isNonRetryableRateLimit = false ∧ err.isRetentionAttestationFailure = false ∧
        err.isNonRetryable = true

/-! ## The classifier against the predicate -/

theorem UpstreamError.isRateLimited_of_isNonRetryableRateLimit
    (h : err.isNonRetryableRateLimit = true) : err.isRateLimited = true := by
  unfold isNonRetryableRateLimit at h
  exact ((Bool.and_eq_true _ _).mp h).1

/-- A context-window error is never terminal. -/
theorem UpstreamError.isNonRetryable_of_context (h : err.isContextWindowExceeded = true) :
    err.isNonRetryable = false := by
  unfold isNonRetryable
  rw [h]
  simp

/-- The classifier permits the fallback unless it comes to its last two bits with both
    set. -/
theorem classify_permits_iff (err : UpstreamError) (contextTruncated : Bool) :
    (classify err contextTruncated).permitsByokFallback = true ↔
      err.isRetentionAttestationFailure = true ∨
        contextTruncated = false ∧ err.isContextWindowExceeded = true ∨
        ¬ ((err.isNonRetryable || err.isNonRetryableRateLimit) = true ∧
          err.isRateLimited = true) := by
  unfold classify
  cases err.isRetentionAttestationFailure with
  | true => simp [FailureClass.permitsByokFallback]
  | false =>
      cases contextTruncated <;> cases err.isContextWindowExceeded <;>
        cases (err.isNonRetryable || err.isNonRetryableRateLimit) <;> cases err.isRateLimited <;>
        simp [FailureClass.permitsByokFallback]

/-- The classifier and the predicate agree on an error that does not divide them,
    whether or not the truncation is spent. -/
theorem classify_permits_of_not_divides (h : ¬ err.Divides) (contextTruncated : Bool) :
    (classify err contextTruncated).permitsByokFallback = !err.isNonRetryableRateLimit := by
  rw [Bool.eq_iff_iff, classify_permits_iff, Bool.not_eq_true']
  constructor
  · intro hpermits
    by_contra hrefused
    rw [Bool.not_eq_false] at hrefused
    have hlimited := UpstreamError.isRateLimited_of_isNonRetryableRateLimit hrefused
    rcases hpermits with hretention | ⟨-, hcontext⟩ | hneither
    · exact h ⟨hlimited, .inl ⟨hrefused, .inl hretention⟩⟩
    · exact h ⟨hlimited, .inl ⟨hrefused, .inr hcontext⟩⟩
    · exact hneither ⟨by rw [hrefused, Bool.or_true], hlimited⟩
  · intro hrefused
    by_contra hnot
    simp only [not_or, not_not, hrefused, Bool.or_false] at hnot
    obtain ⟨hretention, -, hterminal, hlimited⟩ := hnot
    exact h ⟨hlimited, .inr ⟨hrefused, Bool.eq_false_iff.mpr hretention, hterminal⟩⟩

/-- On an error that divides them they differ before the truncation is spent. -/
theorem classify_permits_of_divides (h : err.Divides) :
    (classify err false).permitsByokFallback = err.isNonRetryableRateLimit := by
  obtain ⟨hlimited, ⟨hrefused, hshape⟩ | ⟨hrefused, hretention, hterminal⟩⟩ := h
  · rw [hrefused, classify_permits_iff]
    rcases hshape with hretention | hcontext
    · exact .inl hretention
    · exact .inr (.inl ⟨rfl, hcontext⟩)
  · rw [hrefused, Bool.eq_false_iff]
    intro hpermits
    rcases (classify_permits_iff err false).mp hpermits with hshape | ⟨-, hcontext⟩ | hneither
    · rw [hretention] at hshape
      cases hshape
    · rw [UpstreamError.isNonRetryable_of_context hcontext] at hterminal
      cases hterminal
    · exact hneither ⟨by rw [hterminal, Bool.true_or], hlimited⟩

/-! ## What each place leaves -/

variable {candidate : ProviderCandidate} {err : UpstreamError}

theorem afterFailure_walkAfter {state : WalkState} {kind : FailureClass} {backoffMs : Nat}
    {attempt : Try}
    (h : walkAfter (afterFailure request env state kind err backoffMs index attempt) = some after) :
    after.byokFallbackArmed = state.byokFallbackArmed := by
  unfold afterFailure at h
  cases kind with
  | contextWindow rateLimited =>
      dsimp only at h
      split at h <;> cases h <;> rfl
  | retryable | rateLimited | rateLimitedNonRetryable | nonRetryable | retentionAttestation =>
      dsimp only at h
      split at h
      · cases h
        rfl
      · split at h
        · cases h
          rfl
        · split at h
          · unfold backOff at h
            split at h <;> cases h
            rfl
          · cases h
            rfl

/-- The buffered walk arms as its classifier permits. -/
theorem attemptCandidate_arms {rung : RungState}
    (failed : (env.attempt position index).call = .failed err)
    (goes : walkAfter (attemptCandidate request env position candidate index () rung) =
      some after) :
    after.byokFallbackArmed =
      armFallback candidate (.chat (classify err rung.walk.contextTruncated))
        rung.walk.byokFallbackArmed := by
  unfold attemptCandidate at goes
  dsimp only at goes
  split at goes
  · cases goes
  · rw [failed] at goes
    exact afterFailure_walkAfter goes

/-- The streaming walk's buffered dispatch arms as the classifier permits with no
    truncation spent. -/
theorem bufferCandidate_arms {env : StreamSurroundings} {after : StreamState}
    (failed : attempt.call = .failed err)
    (goes : bufferCandidate request env state position candidate attemptNo attempt = .ok after) :
    after.byokFallbackArmed =
      armFallback candidate (.chat (classify err false)) state.byokFallbackArmed := by
  unfold bufferCandidate at goes
  dsimp only at goes
  rw [failed] at goes
  cases goes
  rfl

/-- A live stream arms unless its error says the account cannot pay. -/
theorem streamCandidate_arms {env : StreamSurroundings} {after : StreamState}
    (failed : attempt.stop = .failed err)
    (goes : streamCandidate request env state position candidate attemptNo attempt = .ok after) :
    after.byokFallbackArmed =
      armFallback candidate (.stream err.isNonRetryableRateLimit) state.byokFallbackArmed := by
  unfold streamCandidate at goes
  dsimp only at goes
  rw [failed] at goes
  dsimp only at goes
  unfold breakStream at goes
  dsimp only at goes
  split at goes
  · cases goes
  · cases goes
    rfl

theorem armFallback_byok (hbyok : candidate.byok = true) (failure : Failure)
    (armed : List String) :
    armFallback candidate failure armed =
      if failure.permitsByokFallback then candidate.definition.provider :: armed else armed := by
  simp [armFallback, hbyok]

/-- Whatever the place, an error that does not divide them opens the latch exactly when
    it is no account refusal. -/
theorem Arming.latch (hbyok : candidate.byok = true) (h : ¬ err.Divides)
    {armed armed' : List String} (arming : Arming candidate err armed armed') :
    armed' = if err.isNonRetryableRateLimit then armed
      else candidate.definition.provider :: armed := by
  have chat : ∀ contextTruncated armed,
      armFallback candidate (.chat (classify err contextTruncated)) armed =
        if err.isNonRetryableRateLimit then armed
        else candidate.definition.provider :: armed := by
    intro contextTruncated armed
    rw [armFallback_byok hbyok]
    show (if (classify err contextTruncated).permitsByokFallback = true then _ else _) = _
    rw [classify_permits_of_not_divides h]
    cases err.isNonRetryableRateLimit <;> rfl
  cases arming with
  | buffered failed goes => rw [attemptCandidate_arms failed goes, chat]
  | synthetic failed goes => rw [bufferCandidate_arms failed goes, chat]
  | live failed goes =>
      rw [streamCandidate_arms failed goes, armFallback_byok hbyok]
      show (if (!err.isNonRetryableRateLimit) = true then _ else _) = _
      cases err.isNonRetryableRateLimit <;> rfl

theorem armFallback_ne {failure failure' : Failure} (hbyok : candidate.byok = true)
    (h : failure.permitsByokFallback ≠ failure'.permitsByokFallback) (armed : List String) :
    armFallback candidate failure armed ≠ armFallback candidate failure' armed := by
  rw [armFallback_byok hbyok, armFallback_byok hbyok]
  cases hleft : failure.permitsByokFallback <;> cases hright : failure'.permitsByokFallback <;>
    simp [hleft, hright] at h ⊢

/-! ## Where they part -/

/-- The three places take one decision on `err`, and none arms on an account refusal. -/
structure ArmingAgrees (candidate : ProviderCandidate) (err : UpstreamError) : Prop where
  same : ∀ armed left right, Arming candidate err armed left → Arming candidate err armed right →
    left = right
  refused : err.isNonRetryableRateLimit = true → ∀ armed after,
    Arming candidate err armed after → after = armed

/-- A dispatch of the streaming walk that fails at once. -/
def failedDispatch (err : UpstreamError) : StreamTry where
  start := DemotedTwin.start
  call := .failed err
  steps := []
  stop := .failed err
  opened := true
  observed := []
  finish := DemotedTwin.start
  closed := false

theorem synthetic_arming (candidate : ProviderCandidate) (err : UpstreamError) :
    Arming candidate err [] (armFallback candidate (.chat (classify err false)) []) := by
  obtain ⟨after, goes⟩ : ∃ after, bufferCandidate DemotedTwin.request DemotedTwin.streamEnv
      (StreamState.start DemotedTwin.request .empty) 0 candidate 1 (failedDispatch err) =
        .ok after := ⟨_, rfl⟩
  have harms := bufferCandidate_arms rfl goes
  have harming := Arming.synthetic rfl goes
  rw [harms] at harming
  exact harming

theorem live_arming (candidate : ProviderCandidate) (err : UpstreamError) :
    Arming candidate err [] (armFallback candidate (.stream err.isNonRetryableRateLimit) []) := by
  obtain ⟨after, goes⟩ : ∃ after, streamCandidate DemotedTwin.request DemotedTwin.streamEnv
      (StreamState.start DemotedTwin.request .empty) 0 candidate 1 (failedDispatch err) =
        .ok after := ⟨_, rfl⟩
  have harms := streamCandidate_arms rfl goes
  have harming := Arming.live rfl goes
  rw [harms] at harming
  exact harming

/-- The three places agree on an upstream failure exactly when it does not divide the
    classifier from the predicate. -/
theorem arming_agrees_iff (hbyok : candidate.byok = true) (err : UpstreamError) :
    ArmingAgrees candidate err ↔ ¬ err.Divides := by
  constructor
  · intro agrees hdivides
    have hsame := agrees.same [] _ _ (synthetic_arming candidate err) (live_arming candidate err)
    refine armFallback_ne hbyok ?_ [] hsame
    show (classify err false).permitsByokFallback ≠ !err.isNonRetryableRateLimit
    rw [classify_permits_of_divides hdivides]
    cases err.isNonRetryableRateLimit <;> decide
  · intro h
    refine ⟨?_, ?_⟩
    · intro armed left right hleft hright
      rw [hleft.latch hbyok h, hright.latch hbyok h]
    · intro hrefused armed after harming
      rw [harming.latch hbyok h, if_pos hrefused]

/-- A customer's rung. -/
def customerRung : ProviderCandidate := ⟨DemotedTwin.candidate, DemotedTwin.client "customer", true, none⟩

theorem arming_agrees_on_unauthorized :
    ArmingAgrees customerRung ⟨some 401, "Unauthorized", none, none⟩ :=
  (arming_agrees_iff rfl _).mpr fun h => absurd h.rateLimited (by decide)

/-- An account refusal that also names a token limit arms the twin in the buffered walk
    and not on a live stream. -/
theorem tokenLimitedQuota_divides :
    customerRung.byok = true ∧
      ¬ ArmingAgrees customerRung
        ⟨none, "429 Too Many Requests: insufficient_quota: token limit exceeded", none, none⟩ := by
  refine ⟨rfl, ?_⟩
  intro agrees
  have hdisarmed := agrees.refused (by decide +kernel) [] _ (synthetic_arming customerRung _)
  revert hdisarmed
  decide +kernel

end ZeroRouter
