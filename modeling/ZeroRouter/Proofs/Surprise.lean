import ZeroRouter.Proofs.Fallback

/-!
# A fallback nobody asked for

The latch that arms a house twin is kept by provider name and never closed, so a twin
may find it opened by another rung of its provider, or by an earlier attempt of its
own rung that a later refusal did not close.  Both walks dispatch a twin exactly when
they come to it with the latch open and ready to call; what they ought to ask is
whether its own rung earned it.
-/

namespace ZeroRouter

variable {position bound : Nat} {candidate : ProviderCandidate} {final : Walked}
  {state : StreamState} {a b c before : List Dispatch}

/-- The calls made at a position. -/
def callsOf (dispatches : List Dispatch) (position : Nat) : List Dispatch :=
  dispatches.filter fun call => call.position = position

/-- In a route, `twin` at `j` is the house twin assembly puts beside `rung`, which an
    ordering has left at `i`. -/
structure Beside (candidates : List ProviderCandidate) (i j : Nat) (rung twin : ProviderCandidate) :
    Prop where
  rungAt : candidates[i]? = some rung
  twinAt : candidates[j]? = some twin
  byok : rung.byok = true
  own : rung.byokFallbackFor = none
  house : twin.byok = false
  twinFor : twin.byokFallbackFor = some rung.definition.provider
  same : twin.definition = rung.definition

/-- The calls made of a customer's rung earn its twin a call: there were some, every
    failure permits the fallback, and none was refused by an account that cannot pay,
    `refused` telling of each attempt in turn. -/
structure Earned (calls : List Dispatch) (refused : Nat → Prop) : Prop where
  called : calls ≠ []
  permits : ∀ call ∈ calls, ∀ failure, call.failure = some failure →
    failure.permitsByokFallback = true
  paid : ∀ index < calls.length, ¬ refused index

/-- A twin at `j` of a rung at `i` is dispatched only if the rung, earlier in the walk,
    earned it. -/
def NoSurprise (dispatches : List Dispatch) (i j : Nat) (refused : Nat → Prop) : Prop :=
  dispatchedAt dispatches j → i < j ∧ Earned (callsOf dispatches i) refused

/-- The `index`-th attempt at a position is refused by an account that cannot pay. -/
def Surroundings.refuses (env : Surroundings) (position index : Nat) : Prop :=
  ∃ err, (env.attempt position index).call = .failed err ∧ err.isNonRetryableRateLimit = true

/-- The streaming walk's one attempt at a rung is. -/
def StreamSurroundings.refuses (env : StreamSurroundings) (rung : ProviderCandidate)
    (position _index : Nat) : Prop :=
  ∃ err, err.isNonRetryableRateLimit = true ∧
    if rung.supportsStreaming then (env.attempt position).stop = .failed err
    else (env.attempt position).call = .failed err

/-! ## Loops over a route that record their calls -/

/-- `after` is `before` and then calls made at `position` only. -/
def CallsAt (position : Nat) (before after : List Dispatch) : Prop :=
  ∃ later, after = before ++ later ∧ ∀ call ∈ later, call.position = position

/-- `after` is `before` and then calls made at `position` or past it. -/
def CallsFrom (position : Nat) (before after : List Dispatch) : Prop :=
  ∃ later, after = before ++ later ∧ ∀ call ∈ later, position ≤ call.position

theorem CallsAt.refl (position : Nat) (calls : List Dispatch) : CallsAt position calls calls :=
  ⟨[], by simp, by simp⟩

theorem CallsAt.one (position : Nat) (calls : List Dispatch) (failure : Option Failure) :
    CallsAt position calls (calls ++ [⟨position, failure⟩]) :=
  ⟨[⟨position, failure⟩], rfl, by simp⟩

theorem CallsAt.trans (h : CallsAt position a b) (h' : CallsAt position b c) :
    CallsAt position a c := by
  obtain ⟨first, rfl, hfirst⟩ := h
  obtain ⟨second, rfl, hsecond⟩ := h'
  refine ⟨first ++ second, by rw [List.append_assoc], ?_⟩
  intro call hcall
  rcases List.mem_append.mp hcall with hcall | hcall
  · exact hfirst call hcall
  · exact hsecond call hcall

theorem CallsFrom.refl (position : Nat) (calls : List Dispatch) :
    CallsFrom position calls calls :=
  ⟨[], by simp, by simp⟩

theorem CallsFrom.then (h : CallsFrom bound a b) (hbound : bound ≤ position)
    (h' : CallsAt position b c) : CallsFrom bound a c := by
  obtain ⟨first, rfl, hfirst⟩ := h
  obtain ⟨second, rfl, hsecond⟩ := h'
  refine ⟨first ++ second, by rw [List.append_assoc], ?_⟩
  intro call hcall
  rcases List.mem_append.mp hcall with hcall | hcall
  · exact hfirst call hcall
  · rw [hsecond call hcall]
    exact hbound

/-- Calls made from a position on are none of an earlier one's. -/
theorem CallsFrom.callsOf {after : List Dispatch} (h : CallsFrom bound before after)
    (hposition : position < bound) :
    callsOf after position = callsOf before position := by
  obtain ⟨later, rfl, hlater⟩ := h
  have hnone : later.filter (fun call => call.position = position) = [] := by
    apply List.filter_eq_nil_iff.mpr
    intro call hcall
    have := hlater call hcall
    simp only [decide_eq_true_eq]
    omega
  simp [ZeroRouter.callsOf, hnone]

theorem dispatchedAt_iff_callsOf (dispatches : List Dispatch) (position : Nat) :
    dispatchedAt dispatches position ↔ callsOf dispatches position ≠ [] := by
  simp [dispatchedAt, callsOf, List.filter_eq_nil_iff]

theorem CallsFrom.dispatchedAt_iff {after : List Dispatch} (h : CallsFrom bound before after)
    (hposition : position < bound) :
    dispatchedAt after position ↔ dispatchedAt before position := by
  rw [dispatchedAt_iff_callsOf, dispatchedAt_iff_callsOf, h.callsOf hposition]

section Route

variable {σ : Type} {body : Nat → ProviderCandidate → σ → Except Walked σ}
  {calls : σ → List Dispatch} {candidates : List ProviderCandidate} {start : σ}

/-- Each pass of the loop adds calls of its own position only. -/
def Records (body : Nat → ProviderCandidate → σ → Except Walked σ) (calls : σ → List Dispatch) :
    Prop :=
  ∀ position candidate state,
    Loop.Ends (fun walked => CallsAt position (calls state) walked.dispatches)
      (fun after => CallsAt position (calls state) (calls after)) (body position candidate state)

/-- The walk that a loop over the route ends as. -/
def Finishes (body : Nat → ProviderCandidate → σ → Except Walked σ) (calls : σ → List Dispatch)
    (candidates : List ProviderCandidate) (start : σ) (final : Walked) : Prop :=
  Loop.Ends (fun walked => final = walked) (fun state => final.dispatches = calls state)
    (Loop.enumerate body 0 candidates start)

/-- The pass at a position calls its candidate. -/
def CallsThere (body : Nat → ProviderCandidate → σ → Except Walked σ) (calls : σ → List Dispatch)
    (position : Nat) (candidate : ProviderCandidate) (state : σ) : Prop :=
  Loop.Ends (fun walked => dispatchedAt walked.dispatches position)
    (fun after => dispatchedAt (calls after) position) (body position candidate state)

variable (candidates) in
/-- Before a position only earlier ones are called. -/
theorem Records.earlier (records : Records body calls) (hstart : calls start = []) (count : Nat) :
    Loop.Ends (fun walked => ∀ call ∈ walked.dispatches, call.position < count)
      (fun state => ∀ call ∈ calls state, call.position < count)
      (Loop.enumerate body 0 (candidates.take count) start) := by
  have run := Loop.enumerate_ends body
    (fun walked => ∀ call ∈ walked.dispatches, call.position < count)
    (fun index state => ∀ call ∈ calls state, call.position < index) (candidates.take count) ?_
    (s := start) (by simp [hstart])
  · refine run.imp (fun _ h => h) ?_
    intro state h call hcall
    have hlen : (candidates.take count).length ≤ count := by simp
    exact (h call hcall).trans_le hlen
  · intro index candidate state hcandidate h
    have hindex : index < count := by
      have := (List.getElem?_eq_some_iff.mp hcandidate).1
      simp only [List.length_take] at this
      omega
    refine (records index candidate state).imp ?_ ?_
    · rintro walked ⟨later, hlater, honly⟩ call hcall
      rw [hlater] at hcall
      rcases List.mem_append.mp hcall with hcall | hcall
      · exact (h call hcall).trans hindex
      · rw [honly call hcall]
        exact hindex
    · rintro after ⟨later, hlater, honly⟩ call hcall
      rw [hlater] at hcall
      rcases List.mem_append.mp hcall with hcall | hcall
      · exact (h call hcall).trans (Nat.lt_succ_self index)
      · rw [honly call hcall]
        exact Nat.lt_succ_self index

/-- From a position on only it and later ones are called. -/
theorem Records.after (records : Records body calls) {count : Nat}
    (hcount : count ≤ candidates.length) {state : σ}
    (harrives : Loop.enumerate body 0 (candidates.take count) start = .ok state)
    (finishes : Finishes body calls candidates start final) :
    CallsFrom count (calls state) final.dispatches := by
  have run : Loop.Ends (fun walked => CallsFrom count (calls state) walked.dispatches)
      (fun after => count ≤ candidates.length ∧ CallsFrom count (calls state) (calls after))
      (Loop.enumerate body 0 candidates start) := by
    refine Loop.enumerate_ends_after body _
      (fun index after => count ≤ index ∧ CallsFrom count (calls state) (calls after))
      candidates ?_ hcount (s := start) ?_
    · rintro index candidate before - ⟨hindex, hfrom⟩
      refine (records index candidate before).imp ?_ ?_
      · intro walked hwalked
        exact hfrom.then hindex hwalked
      · intro after hafter
        exact ⟨hindex.trans (Nat.le_succ index), hfrom.then hindex hafter⟩
    · rw [harrives]
      exact ⟨le_refl count, .refl count _⟩
  unfold Finishes at finishes
  cases hend : Loop.enumerate body 0 candidates start with
  | error walked =>
      rw [hend] at run finishes
      rw [show final = walked from finishes]
      exact run
  | ok after =>
      rw [hend] at run finishes
      rw [show final.dispatches = calls after from finishes]
      exact run.2

/-- A position is called in a whole walk exactly when the walk comes to it and calls it
    there. -/
theorem Records.dispatchedAt_iff (records : Records body calls) (hstart : calls start = [])
    (finishes : Finishes body calls candidates start final)
    (hcandidate : candidates[position]? = some candidate) :
    dispatchedAt final.dispatches position ↔
      ∃ state, Loop.enumerate body 0 (candidates.take position) start = .ok state ∧
        CallsThere body calls position candidate state := by
  have hposition := (List.getElem?_eq_some_iff.mp hcandidate).1
  have stopped : ∀ (items rest : List ProviderCandidate) walked, candidates = items ++ rest →
      Loop.enumerate body 0 items start = .error walked → final = walked := by
    intro items rest walked hsplit herror
    unfold Finishes at finishes
    rw [hsplit, Loop.enumerate_append, herror] at finishes
    exact finishes
  have hearlier := records.earlier candidates hstart position
  cases harrives : Loop.enumerate body 0 (candidates.take position) start with
  | error walked =>
      rw [harrives] at hearlier
      rw [stopped _ _ walked (List.take_append_drop position candidates).symm harrives]
      constructor
      · rintro ⟨call, hcall, rfl⟩
        exact absurd (hearlier call hcall) (Nat.lt_irrefl _)
      · rintro ⟨state, hstate, -⟩
        cases hstate
  | ok state =>
      have hnext := enumerate_take_succ hcandidate harrives
      have hthere : dispatchedAt final.dispatches position ↔
          CallsThere body calls position candidate state := by
        unfold CallsThere
        cases hbody : body position candidate state with
        | error walked =>
            rw [hbody] at hnext
            rw [stopped _ _ walked (List.take_append_drop (position + 1) candidates).symm hnext]
            rfl
        | ok after =>
            rw [hbody] at hnext
            exact (records.after hposition hnext finishes).dispatchedAt_iff (Nat.lt_succ_self _)
      rw [hthere]
      constructor
      · intro h
        exact ⟨state, rfl, h⟩
      · rintro ⟨state', hstate, h⟩
        cases hstate
        exact h

/-- A twin is no surprise in a whole walk exactly when, wherever the walk comes to it
    and calls it, its rung has earned it by then. -/
theorem Records.noSurprise_iff (records : Records body calls) (hstart : calls start = [])
    (finishes : Finishes body calls candidates start final) {i j : Nat} {twin : ProviderCandidate}
    (htwin : candidates[j]? = some twin) (refused : Nat → Prop) :
    NoSurprise final.dispatches i j refused ↔
      ∀ state, Loop.enumerate body 0 (candidates.take j) start = .ok state →
        CallsThere body calls j twin state → i < j ∧ Earned (callsOf (calls state) i) refused := by
  have hj := (List.getElem?_eq_some_iff.mp htwin).1
  unfold NoSurprise
  rw [records.dispatchedAt_iff hstart finishes htwin]
  constructor
  · intro h state harrives hcalls
    obtain ⟨hlt, hearned⟩ := h ⟨state, harrives, hcalls⟩
    rw [(records.after (Nat.le_of_lt hj) harrives finishes).callsOf hlt] at hearned
    exact ⟨hlt, hearned⟩
  · rintro h ⟨state, harrives, hcalls⟩
    obtain ⟨hlt, hearned⟩ := h state harrives hcalls
    rw [(records.after (Nat.le_of_lt hj) harrives finishes).callsOf hlt]
    exact ⟨hlt, hearned⟩

end Route

/-! ## The buffered walk -/

section NonStreaming

variable {request : WalkRequest} {env : Surroundings} {health : ProviderHealth} {state : WalkState}

/-- The first attempt at a position makes its call: there is upstream time left, and no
    shutdown comes before it starts. -/
def Surroundings.starts (env : Surroundings) (position : Nat) : Bool :=
  (remainingUpstreamTime env.started (env.attempt position 0).start).isSome &&
    (env.attempt position 0).call ≠ .shutdown false

/-- Health has the walk pass the candidate on arrival. -/
def WalkState.demotes (request : WalkRequest) (env : Surroundings) (position : Nat)
    (candidate : ProviderCandidate) (state : WalkState) : Bool :=
  (state.attempts.health.observeAll (env.arrival position).observed).shouldSkip
      (env.arrival position).now.instant candidate.definition &&
    (state.lastCandidate.isSome || position + 1 < request.candidates.length)

/-- The walk calls the candidate once policy lets it. -/
structure WalkState.Ready (request : WalkRequest) (env : Surroundings) (position : Nat)
    (candidate : ProviderCandidate) (state : WalkState) : Prop where
  healthy : state.demotes request env position candidate = false
  starts : env.starts position = true

theorem attemptRule_callsAt (base : List Dispatch) (position : Nat)
    (candidate : ProviderCandidate) :
    AttemptRule request env position candidate
      (fun _ state => CallsAt position base state.dispatches)
      (fun walked => CallsAt position base walked.dispatches) where
  meet observed h := h
  repair messages h := h
  recorded := by
    intro n s s' _ h record
    obtain ⟨failure, hcall, -⟩ := record.call
    rw [hcall]
    exact h.trans (.one position _ failure)
  cut terminal now h _ := h
  exhaust now h := h
  serve := by
    intro n s response started now _ h
    unfold serveCompletion
    cases OpenAiUsage.tryFromProvider response.usage with
    | none => exact h.trans (.one position _ none)
    | some usage => exact h.trans (.one position _ none)

theorem visitCandidate_records : Records (visitCandidate request env) WalkState.dispatches := by
  intro position candidate state
  unfold visitCandidate
  dsimp only
  split
  · exact .refl position _
  · split
    · exact .refl position _
    · have hmet : CallsAt position state.dispatches
          (state.meet (env.arrival position).observed).dispatches := .refl position _
      have rule : AttemptRule request env position candidate _ _ :=
        attemptRule_callsAt state.dispatches position candidate
      refine (rule.runAttempts_ends hmet).imp (fun _ h => h) ?_
      rintro after ⟨-, -, h⟩
      exact h

theorem runNonStreaming_finishes :
    Finishes (visitCandidate request env) WalkState.dispatches request.candidates
      (WalkState.start request health) (runNonStreaming request env health) := by
  unfold Finishes runNonStreaming walkTo
  rw [List.take_length]
  cases Loop.enumerate (visitCandidate request env) 0 request.candidates
      (WalkState.start request health) with
  | error walked => rfl
  | ok state => rfl

/-- Once the position has been called it stays so. -/
theorem attemptRule_called (position : Nat) (candidate : ProviderCandidate) :
    AttemptRule request env position candidate
      (fun _ state => dispatchedAt state.dispatches position)
      (fun walked => dispatchedAt walked.dispatches position) where
  meet observed h := h
  repair messages h := h
  recorded := by
    intro n s s' _ h record
    obtain ⟨failure, hcall, -⟩ := record.call
    rw [hcall]
    exact dispatchedAt_append _ _ _
  cut terminal now h _ := h
  exhaust now h := h
  serve := by
    intro n s response started now _ h
    unfold serveCompletion
    cases OpenAiUsage.tryFromProvider response.usage with
    | none => exact dispatchedAt_append _ _ _
    | some usage => exact dispatchedAt_append _ _ _

/-- The first attempt, once it starts, calls the candidate. -/
theorem attemptCandidate_calls (hstarts : env.starts position = true) (rung : RungState) :
    Loop.Ends
      (RungExit.Meets request env (fun state => dispatchedAt state.dispatches position)
        (fun walked => dispatchedAt walked.dispatches position))
      (fun rung => dispatchedAt rung.walk.dispatches position)
      (attemptCandidate request env position candidate 0 () rung) := by
  have rule : AttemptRule request env position candidate _ _ :=
    attemptRule_called position candidate
  obtain ⟨htime, hcall⟩ := (Bool.and_eq_true _ _).mp hstarts
  unfold attemptCandidate
  dsimp only
  generalize rung.walk.meet (env.attempt position 0).observed = state
  generalize env.attempt position 0 = attempt at htime hcall ⊢
  cases htime' : remainingUpstreamTime env.started attempt.start with
  | none =>
      rw [htime'] at htime
      cases htime
  | some remaining =>
      have called : ∀ failure, dispatchedAt (state.dispatches ++ [⟨position, failure⟩]) position :=
        dispatchedAt_append _ _
      cases hcall' : attempt.call with
      | shutdown started =>
          cases started with
          | false =>
              rw [hcall'] at hcall
              exact absurd hcall (by decide)
          | true => exact called none
      | elapsed => exact called none
      | answered response =>
          dsimp only
          split
          · exact rule.backOff_ends (n := 1) (called none) _ _ attempt
          · unfold serveCompletion
            cases OpenAiUsage.tryFromProvider response.usage with
            | none => exact called none
            | some usage => exact called none
      | failed err =>
          dsimp only
          exact rule.afterFailure_ends (n := 0) (called _) _ err _ _ attempt

/-- Else the walk ends there, with no call made. -/
theorem attemptCandidate_stops (request : WalkRequest) (candidate : ProviderCandidate)
    (hstarts : env.starts position = false) (rung : RungState) :
    ∃ walked, attemptCandidate request env position candidate 0 () rung = .error (.done walked) ∧
      walked.dispatches = rung.walk.dispatches := by
  have hstops := (Bool.and_eq_false_iff).mp hstarts
  unfold attemptCandidate
  dsimp only
  cases htime : remainingUpstreamTime env.started (env.attempt position 0).start with
  | none => exact ⟨_, rfl, rfl⟩
  | some remaining =>
      rcases hstops with hnone | hcall
      · rw [htime] at hnone
        cases hnone
      · have hcall : (env.attempt position 0).call = .shutdown false := by simpa using hcall
        rw [hcall]
        exact ⟨_, rfl, rfl⟩

/-- A candidate's attempts call it exactly when the first of them starts. -/
theorem runAttempts_calls_iff (candidate : ProviderCandidate)
    (hnot : ¬ dispatchedAt state.dispatches position) :
    Loop.Ends (fun walked => dispatchedAt walked.dispatches position)
        (fun after => dispatchedAt after.dispatches position)
        (runAttempts request env position candidate state) ↔
      env.starts position = true := by
  constructor
  · intro hcalled
    by_contra hstarts
    obtain ⟨walked, hstops, hdispatches⟩ := attemptCandidate_stops request candidate
      (Bool.eq_false_iff.mpr hstarts) ⟨state, candidateBackoffMs⟩
    have hend : runAttempts request env position candidate state = .error walked := by
      unfold runAttempts
      rw [List.replicate_succ, Loop.enumerate_cons_error hstops]
    rw [hend] at hcalled
    refine hnot ?_
    rw [show state.dispatches = walked.dispatches from hdispatches.symm]
    exact hcalled
  · intro hstarts
    have rule : AttemptRule request env position candidate _ _ :=
      attemptRule_called position candidate
    have run := Loop.enumerate_ends (attemptCandidate request env position candidate)
      (RungExit.Meets request env (fun state => dispatchedAt state.dispatches position)
        (fun walked => dispatchedAt walked.dispatches position))
      (fun index (rung : RungState) => index = 0 ∨ dispatchedAt rung.walk.dispatches position)
      (List.replicate (candidateRetries + 1) ()) ?_
      (s := ⟨state, candidateBackoffMs⟩) (.inl rfl)
    · unfold runAttempts
      revert run
      cases Loop.enumerate (attemptCandidate request env position candidate) 0
          (List.replicate (candidateRetries + 1) ())
          { walk := state, backoffMs := candidateBackoffMs } with
      | ok rung =>
          intro run
          exact run.resolve_left (by simp)
      | error exit =>
          intro run
          cases exit with
          | nextCandidate state => exact run
          | leaveWalk state now => exact run
          | done walked => exact run
    · intro index x rung hx hkeep
      by_cases hindex : index = 0
      · subst hindex
        exact (attemptCandidate_calls hstarts rung).imp (fun _ h => h) fun _ h => .inr h
      · have hle : index ≤ candidateRetries := by
          have := (List.getElem?_eq_some_iff.mp hx).1
          simp at this
          omega
        exact (rule.attemptCandidate_ends hle (hkeep.resolve_left hindex)).imp (fun _ h => h)
          fun _ h => .inr h

/-- An arrival at a candidate not yet called calls it exactly when policy lets it and it
    is ready. -/
theorem visitCandidate_callsThere_iff (hnot : ¬ dispatchedAt state.dispatches position) :
    CallsThere (visitCandidate request env) WalkState.dispatches position candidate state ↔
      policySkips state.byokFallbackArmed candidate = false ∧
        state.Ready request env position candidate := by
  unfold CallsThere visitCandidate
  dsimp only
  rw [WalkState.meet_armed, WalkState.meet_health, WalkState.meet_lastCandidate]
  by_cases hpolicy : policySkips state.byokFallbackArmed candidate = true
  · rw [if_pos hpolicy]
    constructor
    · intro hcalled
      exact absurd hcalled hnot
    · rintro ⟨hnot', -⟩
      rw [hpolicy] at hnot'
      cases hnot'
  · rw [if_neg hpolicy]
    split
    · rename_i hdemoted
      constructor
      · intro hcalled
        exact absurd hcalled hnot
      · rintro ⟨-, hready⟩
        exact absurd (hdemoted.symm.trans hready.healthy) (by decide)
    · rename_i hdemoted
      have hmet : ¬ dispatchedAt (state.meet (env.arrival position).observed).dispatches position :=
        hnot
      rw [runAttempts_calls_iff candidate hmet]
      constructor
      · intro hstarts
        exact ⟨Bool.eq_false_iff.mpr hpolicy, Bool.eq_false_iff.mpr hdemoted, hstarts⟩
      · rintro ⟨-, hready⟩
        exact hready.starts

end NonStreaming

/-! ## The streaming walk -/

section Streaming

variable {request : WalkRequest} {env : StreamSurroundings} {health : ProviderHealth}

/-- The one attempt at a candidate makes its call. -/
def StreamSurroundings.starts (env : StreamSurroundings) (position : Nat)
    (candidate : ProviderCandidate) : Bool :=
  (remainingUpstreamTime env.started (env.attempt position).start).isSome &&
    (candidate.supportsStreaming || (env.attempt position).call ≠ .shutdown false)

/-- Health has the walk pass the candidate on arrival. -/
def StreamState.demotes (request : WalkRequest) (env : StreamSurroundings) (position : Nat)
    (candidate : ProviderCandidate) (state : StreamState) : Bool :=
  (state.attempts.health.observeAll (env.arrival position).observed).shouldSkip
      (env.arrival position).now.instant candidate.definition &&
    (state.lastCandidate.isSome || position + 1 < request.candidates.length)

/-- The dispatch of a streaming candidate is one call. -/
theorem streamCandidate_dispatches (state : StreamState) (position : Nat)
    (candidate : ProviderCandidate) (attemptNo : Nat) (attempt : StreamTry) :
    ∃ failure, Loop.Ends
      (fun walked => walked.dispatches = state.dispatches ++ [⟨position, failure⟩])
      (fun after => after.dispatches = state.dispatches ++ [⟨position, failure⟩])
      (streamCandidate request env state position candidate attemptNo attempt) := by
  have broken : ∀ locals err, ∃ failure, Loop.Ends
      (fun walked => walked.dispatches = state.dispatches ++ [⟨position, failure⟩])
      (fun after => after.dispatches = state.dispatches ++ [⟨position, failure⟩])
      (breakStream request env state position candidate locals err attemptNo attempt) := by
    intro locals err
    refine ⟨some (.stream (err.any UpstreamError.isNonRetryableRateLimit)), ?_⟩
    unfold breakStream
    dsimp only
    split
    · rfl
    · rfl
  unfold streamCandidate
  dsimp only
  cases attempt.stop with
  | timeout => exact ⟨none, rfl⟩
  | shutdown => exact ⟨none, rfl⟩
  | final =>
      refine ⟨none, ?_⟩
      unfold finishSuccessfulStream
      dsimp only
      split
      · rfl
      · rfl
  | ended => exact broken _ none
  | failed err => exact broken _ (some err)

/-- The buffered dispatch of a candidate is one call, unless a shutdown comes before it
    starts. -/
theorem bufferCandidate_dispatches (state : StreamState) (position : Nat)
    (candidate : ProviderCandidate) (attemptNo : Nat) {attempt : StreamTry}
    (hcall : attempt.call ≠ .shutdown false) :
    ∃ failure, Loop.Ends
      (fun walked => walked.dispatches = state.dispatches ++ [⟨position, failure⟩])
      (fun after => after.dispatches = state.dispatches ++ [⟨position, failure⟩])
      (bufferCandidate request env state position candidate attemptNo attempt) := by
  unfold bufferCandidate
  dsimp only
  cases hcall' : attempt.call with
  | shutdown started =>
      cases started with
      | false => exact absurd hcall' hcall
      | true => exact ⟨none, rfl⟩
  | elapsed => exact ⟨none, rfl⟩
  | answered response =>
      refine ⟨none, ?_⟩
      unfold completeSyntheticStream
      dsimp only
      split
      · rfl
      · rfl
  | failed err => exact ⟨_, rfl⟩

/-- The walk calls the candidate once policy lets it. -/
structure StreamState.Ready (request : WalkRequest) (env : StreamSurroundings) (position : Nat)
    (candidate : ProviderCandidate) (state : StreamState) : Prop where
  connected : (env.arrival position).closed = false
  healthy : state.demotes request env position candidate = false
  starts : env.starts position candidate = true

/-- A candidate that policy lets through and that is ready is called once. -/
theorem visitStreaming_dispatches
    (hpolicy : policySkips state.byokFallbackArmed candidate = false)
    (hready : state.Ready request env position candidate) :
    ∃ failure, Loop.Ends
      (fun walked => walked.dispatches = state.dispatches ++ [⟨position, failure⟩])
      (fun after => after.dispatches = state.dispatches ++ [⟨position, failure⟩])
      (visitStreaming request env position candidate state) := by
  have hhealthy := hready.healthy
  unfold StreamState.demotes at hhealthy
  obtain ⟨htime, hcall⟩ := (Bool.and_eq_true _ _).mp hready.starts
  unfold visitStreaming
  dsimp only
  rw [StreamState.meet_armed, StreamState.meet_health, StreamState.meet_lastCandidate, hpolicy,
    hready.connected, hhealthy, if_neg Bool.false_ne_true, if_neg Bool.false_ne_true,
    if_neg Bool.false_ne_true]
  cases htime' : remainingUpstreamTime env.started (env.attempt position).start with
  | none =>
      rw [htime'] at htime
      cases htime
  | some remaining =>
      dsimp only
      by_cases hstream : candidate.supportsStreaming = true
      · rw [if_pos hstream]
        exact streamCandidate_dispatches _ position candidate _ _
      · rw [if_neg hstream]
        refine bufferCandidate_dispatches _ position candidate _ ?_
        rw [Bool.eq_false_iff.mpr hstream, Bool.false_or, decide_eq_true_eq] at hcall
        exact hcall

/-- Any other is not called. -/
theorem visitStreaming_dispatches_none
    (h : ¬ (policySkips state.byokFallbackArmed candidate = false ∧
      state.Ready request env position candidate)) :
    Loop.Ends (fun walked => walked.dispatches = state.dispatches)
      (fun after => after.dispatches = state.dispatches)
      (visitStreaming request env position candidate state) := by
  unfold visitStreaming
  dsimp only
  rw [StreamState.meet_armed, StreamState.meet_health, StreamState.meet_lastCandidate]
  by_cases hpolicy : policySkips state.byokFallbackArmed candidate = true
  · rw [if_pos hpolicy]
    rfl
  · rw [if_neg hpolicy]
    by_cases hclosed : (env.arrival position).closed = true
    · rw [if_pos hclosed]
      rfl
    · rw [if_neg hclosed]
      split
      · rfl
      · rename_i hdemoted
        cases htime : remainingUpstreamTime env.started (env.attempt position).start with
        | none => rfl
        | some remaining =>
            dsimp only
            have hstarts : ¬ env.starts position candidate = true := by
              intro hstarts
              exact h ⟨Bool.eq_false_iff.mpr hpolicy, Bool.eq_false_iff.mpr hclosed,
                Bool.eq_false_iff.mpr hdemoted, hstarts⟩
            have hends : candidate.supportsStreaming = false ∧
                (env.attempt position).call = .shutdown false := by
              simpa [StreamSurroundings.starts, htime] using hstarts
            rw [if_neg (Bool.eq_false_iff.mp hends.1)]
            unfold bufferCandidate
            dsimp only
            rw [hends.2]
            rfl

theorem visitStreaming_records : Records (visitStreaming request env) StreamState.dispatches := by
  intro position candidate state
  by_cases h : policySkips state.byokFallbackArmed candidate = false ∧
      state.Ready request env position candidate
  · obtain ⟨failure, hends⟩ := visitStreaming_dispatches h.1 h.2
    refine hends.imp ?_ ?_
    · intro walked hwalked
      rw [hwalked]
      exact .one position _ failure
    · intro after hafter
      rw [hafter]
      exact .one position _ failure
  · refine (visitStreaming_dispatches_none h).imp ?_ ?_
    · intro walked hwalked
      rw [hwalked]
      exact .refl position _
    · intro after hafter
      rw [hafter]
      exact .refl position _

theorem visitStreaming_callsThere_iff (hnot : ¬ dispatchedAt state.dispatches position) :
    CallsThere (visitStreaming request env) StreamState.dispatches position candidate state ↔
      policySkips state.byokFallbackArmed candidate = false ∧
        state.Ready request env position candidate := by
  constructor
  · intro hcalled
    by_contra h
    have hnone := visitStreaming_dispatches_none h
    unfold CallsThere at hcalled
    cases hvisit : visitStreaming request env position candidate state with
    | error walked =>
        rw [hvisit] at hcalled hnone
        rw [Loop.ends_error, show walked.dispatches = state.dispatches from hnone] at hcalled
        exact hnot hcalled
    | ok after =>
        rw [hvisit] at hcalled hnone
        rw [Loop.ends_ok, show after.dispatches = state.dispatches from hnone] at hcalled
        exact hnot hcalled
  · rintro ⟨hpolicy, hready⟩
    obtain ⟨failure, hends⟩ := visitStreaming_dispatches hpolicy hready
    refine hends.imp ?_ ?_
    · intro walked hwalked
      rw [hwalked]
      exact dispatchedAt_append _ _ _
    · intro after hafter
      rw [hafter]
      exact dispatchedAt_append _ _ _

theorem streamToChannel_finishes :
    Finishes (visitStreaming request env) StreamState.dispatches request.candidates
      (StreamState.start request health) (streamToChannel request env health) := by
  unfold Finishes streamToChannel streamTo
  rw [List.take_length]
  cases Loop.enumerate (visitStreaming request env) 0 request.candidates
      (StreamState.start request health) with
  | error walked => rfl
  | ok state => exact exhaustStream_dispatches state _

end Streaming

/-! ## Both walks -/

/-- A twin is let by exactly when its provider's latch is open. -/
theorem Beside.policySkips_iff {candidates : List ProviderCandidate} {i j : Nat}
    {rung twin : ProviderCandidate} (h : Beside candidates i j rung twin) (armed : List String) :
    policySkips armed twin = false ↔ rung.definition.provider ∈ armed := by
  simp [policySkips, h.twinFor]

namespace TwoModels

def second : TierCandidate := { DemotedTwin.candidate with id := "sonnet", model := "sonnet" }

def route : List ProviderCandidate :=
  DemotedTwin.route ++
    [⟨second, DemotedTwin.client "customer", true, none⟩,
      ⟨second, DemotedTwin.client "house", false, some "anthropic"⟩]

def request : WalkRequest where
  session := ⟨1, 1, 1, true, 64, none⟩
  resolved := ⟨"claude", [DemotedTwin.candidate, second], second.rates⟩
  messages := [⟨"user", "hello"⟩]
  candidates := route

/-- The first model answers 401 to both credentials, the second refuses the customer's
    account for want of quota, and the house is answered. -/
def call : Nat → Call
  | 0 | 1 => .failed ⟨some 401, "refused", none, none⟩
  | 2 => .failed ⟨some 429, "insufficient_quota", none, none⟩
  | _ => .answered ⟨some "hi", [], none, none⟩

/-- Another request is served by the second model just before its twin's turn. -/
def arrival (position : Nat) : Arrival where
  now := DemotedTwin.start
  observed :=
    if position = 3 then
      [(0, buildAttempt 1 second "ok" true DemotedTwin.start DemotedTwin.start .unknown false)]
    else []
  closed := false

def env : Surroundings where
  started := DemotedTwin.start
  arrival := arrival
  attempt position _ :=
    ⟨DemotedTwin.start, call position, [], DemotedTwin.start, fun _ => true⟩
  persists _ := true

def streamEnv : StreamSurroundings where
  started := DemotedTwin.start
  arrival := arrival
  attempt position :=
    { start := DemotedTwin.start, call := .elapsed, steps := []
      stop := match call position with
        | .failed err => .failed err
        | _ => .final
      opened := true, observed := [], finish := DemotedTwin.start, closed := false }
  persists _ := true

/-- The route is what assembly and ordering make of the two candidates. -/
theorem route_built :
    ((buildWithByok DemotedTwin.inventory 64 DemotedTwin.credentials DemotedTwin.environment
        [DemotedTwin.candidate, second]).toOption.map fun built =>
      orderCandidates .balanced ⟨fun _ => none, fun _ => false, fun _ => true⟩ .empty 0
        built.candidates) = some route := by
  decide +kernel

end TwoModels

end ZeroRouter
