import ZeroRouter.Proofs.Settled

/-!
# What the skips can cost a walk

A candidate may be passed without a call because it is the house twin of a rung
that has not failed, or because health finds it demoted while the walk has somewhere
else to go.  A walk makes no call at all exactly when every position of its route is
passed one of these two ways; a twin that has been armed is called unless health
demotes it on arrival.
-/

namespace ZeroRouter

open List

variable {position bound : Nat} {state : StreamState} {outcome : String}

/-- The registry before a position, in a walk that has called nothing: what other
    walks have made of it. -/
def registryBefore (health : ProviderHealth) (arrival : Nat → Arrival) : Nat → ProviderHealth
  | 0 => health
  | position + 1 => (registryBefore health arrival position).observeAll (arrival position).observed

/-- A position is passed by a walk that has called nothing: its candidate is a twin,
    or is found demoted, its client still there, with another position to go to. -/
def SkippedOnArrival (candidates : List ProviderCandidate) (health : ProviderHealth)
    (arrival : Nat → Arrival) (closed : Nat → Bool) (position : Nat)
    (candidate : ProviderCandidate) : Prop :=
  candidate.byokFallbackFor.isSome = true ∨
    closed position = false ∧
      (registryBefore health arrival (position + 1)).shouldSkip (arrival position).now.instant
        candidate.definition = true ∧
      position + 1 < candidates.length

/-- Every position is passed, so nothing is ever called. -/
def NeverTries (candidates : List ProviderCandidate) (health : ProviderHealth)
    (arrival : Nat → Arrival) (closed : Nat → Bool) : Prop :=
  ∀ position candidate, candidates[position]? = some candidate →
    SkippedOnArrival candidates health arrival closed position candidate

/-- A skip is no evidence about a rung. -/
theorem observe_skipped (health : ProviderHealth) (now : Instant) (attemptNo : Nat)
    (candidate : TierCandidate) (moment : Moment)
    (h : outcome = "policy_skipped" ∨ outcome = "health_skipped") :
    health.observe now (skippedAttempt attemptNo candidate outcome moment) = health := by
  apply ProviderHealth.observe_of_no_evidence
  rw [skippedAttempt, buildAttempt_outcome]
  rcases h with rfl | rfl <;> decide

@[simp] theorem policySkips_nil (candidate : ProviderCandidate) :
    policySkips [] candidate = candidate.byokFallbackFor.isSome := by
  unfold policySkips
  cases candidate.byokFallbackFor <;> simp

/-! ## The buffered walk -/

section NonStreaming

variable {request : WalkRequest} {env : Surroundings} {health : ProviderHealth}
  {candidate : ProviderCandidate} {state : WalkState}

/-- A walk that has called nothing before a position. -/
structure WalkState.Untried (health : ProviderHealth) (arrival : Nat → Arrival) (position : Nat)
    (state : WalkState) : Prop where
  last : state.lastCandidate = none
  armed : state.byokFallbackArmed = []
  dispatches : state.dispatches = []
  registry : state.attempts.health = registryBefore health arrival position

namespace WalkState.Untried

variable {position : Nat} {state : WalkState} (h : state.Untried health env.arrival position)
include h

theorem registry_meet : (state.meet (env.arrival position).observed).attempts.health =
    registryBefore health env.arrival (position + 1) := by
  rw [registryBefore, ← h.registry]
  rfl

/-- Passing a position leaves a walk untried. -/
theorem skip (candidate : TierCandidate)
    (houtcome : outcome = "policy_skipped" ∨ outcome = "health_skipped") (now : Moment) :
    ((state.meet (env.arrival position).observed).skip candidate outcome now).Untried health
      env.arrival (position + 1) where
  last := h.last
  armed := h.armed
  dispatches := h.dispatches
  registry := by
    rw [← h.registry_meet]
    exact observe_skipped _ _ _ candidate now houtcome

end WalkState.Untried

/-- A walk that ran out of candidates was not cut short. -/
theorem exhaustWalk_ending (state : WalkState) (now : Moment) :
    (exhaustWalk request env state now).ending = .exhausted := by
  unfold exhaustWalk
  split
  · rfl
  · cases state.parameterRejection <;> rfl

/-- A candidate's attempts only add calls, and add one at its position unless the walk
    is cut short first. -/
theorem attemptRule_calls (base : List Dispatch) (position : Nat) (candidate : ProviderCandidate) :
    AttemptRule request env position candidate
      (fun n state => base ⊆ state.dispatches ∧ (n ≠ 0 → dispatchedAt state.dispatches position))
      (fun walked => base ⊆ walked.dispatches ∧
        (dispatchedAt walked.dispatches position ∨ walked.ending.interrupted = true)) where
  meet observed h := h
  repair messages h := h
  recorded := by
    intro n s s' _ h record
    obtain ⟨failure, hcall, -⟩ := record.call
    rw [hcall]
    exact ⟨subset_append_of_subset_left _ h.1, fun _ => dispatchedAt_append _ _ _⟩
  cut terminal now h hending := ⟨h.1, .inr hending⟩
  exhaust now h := ⟨h.1, .inl (h.2 (by omega))⟩
  serve := by
    intro n s response started now _ h
    unfold serveCompletion
    cases OpenAiUsage.tryFromProvider response.usage with
    | none =>
        exact ⟨subset_append_of_subset_left _ h.1, .inl (dispatchedAt_append _ _ _)⟩
    | some usage =>
        exact ⟨subset_append_of_subset_left _ h.1, .inl (dispatchedAt_append _ _ _)⟩

theorem runAttempts_calls (position : Nat) (candidate : ProviderCandidate) (state : WalkState) :
    Loop.Ends
      (fun walked => state.dispatches ⊆ walked.dispatches ∧
        (dispatchedAt walked.dispatches position ∨ walked.ending.interrupted = true))
      (fun after => state.dispatches ⊆ after.dispatches ∧ dispatchedAt after.dispatches position)
      (runAttempts request env position candidate state) := by
  refine ((attemptRule_calls state.dispatches position candidate).runAttempts_ends
    ⟨List.Subset.refl _, fun h => absurd rfl h⟩).imp (fun _ h => h) ?_
  rintro after ⟨n, -, h⟩
  exact ⟨h.1, h.2 (by omega)⟩

/-- Calls once made are remembered. -/
theorem visitCandidate_grows (position : Nat) (candidate : ProviderCandidate) (state : WalkState) :
    Loop.Ends (fun walked => state.dispatches ⊆ walked.dispatches)
      (fun after => state.dispatches ⊆ after.dispatches)
      (visitCandidate request env position candidate state) := by
  unfold visitCandidate
  dsimp only
  split
  · exact List.Subset.refl _
  · split
    · exact List.Subset.refl _
    · exact (runAttempts_calls position candidate _).imp (fun _ h => h.1) fun _ h => h.1

/-- An untried walk passes a position that is skipped on arrival. -/
theorem visitCandidate_passes (h : state.Untried health env.arrival position)
    (hskip : SkippedOnArrival request.candidates health env.arrival (fun _ => false) position
      candidate) :
    Loop.Ends (fun _ => False) (fun after => after.Untried health env.arrival (position + 1))
      (visitCandidate request env position candidate state) := by
  unfold visitCandidate
  dsimp only
  rw [WalkState.meet_armed, h.armed, policySkips_nil, h.registry_meet]
  rcases hskip with htwin | ⟨-, hdemoted, hmore⟩
  · rw [if_pos htwin]
    exact h.skip _ (.inl rfl) _
  · by_cases htwin : candidate.byokFallbackFor.isSome = true
    · rw [if_pos htwin]
      exact h.skip _ (.inl rfl) _
    · rw [if_neg htwin, if_pos (by simp [hdemoted, hmore])]
      exact h.skip _ (.inr rfl) _

/-- An untried walk calls the candidate of any other position, unless it is cut short
    first. -/
theorem visitCandidate_tries (h : state.Untried health env.arrival position)
    (hskip : ¬ SkippedOnArrival request.candidates health env.arrival (fun _ => false) position
      candidate) :
    Loop.Ends (fun walked => walked.dispatches ≠ [] ∨ walked.ending.interrupted = true)
      (fun after => after.dispatches ≠ []) (visitCandidate request env position candidate state) := by
  have htwin : ¬ candidate.byokFallbackFor.isSome = true := fun h => hskip (.inl h)
  unfold visitCandidate
  dsimp only
  rw [WalkState.meet_armed, h.armed, policySkips_nil, h.registry_meet, WalkState.meet_lastCandidate,
    h.last, if_neg htwin, if_neg ?_]
  · refine (runAttempts_calls position candidate _).imp ?_ ?_
    · rintro walked ⟨-, ⟨call, hcall, -⟩ | hcut⟩
      · exact .inl (ne_nil_of_mem hcall)
      · exact .inr hcut
    · rintro after ⟨-, call, hcall, -⟩
      exact ne_nil_of_mem hcall
  · intro hdemoted
    have := (Bool.and_eq_true _ _).mp hdemoted
    exact hskip (.inr ⟨rfl, this.1, by simpa using this.2⟩)

/-- A walk whose every position is passed ends with nothing called. -/
theorem walkTo_neverTries
    (h : NeverTries request.candidates health env.arrival fun _ => false) :
    Loop.Ends (fun _ => False)
      (fun state => state.Untried health env.arrival request.candidates.length)
      (walkTo request env health request.candidates.length) := by
  unfold walkTo
  rw [take_length]
  refine Loop.enumerate_ends _ _
    (fun position (state : WalkState) => state.Untried health env.arrival position) _ ?_
    ⟨rfl, rfl, rfl, rfl⟩
  intro position candidate state hcandidate huntried
  exact visitCandidate_passes huntried (h position candidate hcandidate)

/-- A walk some position of which is not passed calls a candidate, unless it is cut
    short first. -/
theorem walkTo_tries (h : ¬ NeverTries request.candidates health env.arrival fun _ => false) :
    Loop.Ends (fun walked => walked.dispatches ≠ [] ∨ walked.ending.interrupted = true)
      (fun state => state.dispatches ≠ [])
      (walkTo request env health request.candidates.length) := by
  unfold walkTo
  rw [take_length]
  refine Loop.enumerate_touches
    (fun position (state : WalkState) => state.Untried health env.arrival position)
    (fun _ (state : WalkState) => state.dispatches ≠ [])
    (SkippedOnArrival request.candidates health env.arrival fun _ => false)
    ?_ ?_ ?_ ⟨rfl, rfl, rfl, rfl⟩ h
  · intro position candidate state _ huntried hskip
    exact (visitCandidate_passes huntried hskip).imp (fun _ h => h.elim) fun _ h => h
  · intro position candidate state _ huntried hskip
    exact visitCandidate_tries huntried hskip
  · intro position candidate state _ hcalled
    refine (visitCandidate_grows position candidate state).imp ?_ ?_
    · intro walked hsub
      exact .inl fun hnil => hcalled (eq_nil_of_subset_nil (hnil ▸ hsub))
    · intro after hsub hnil
      exact hcalled (eq_nil_of_subset_nil (hnil ▸ hsub))

/-- The buffered walk calls some candidate, or is cut short, unless every position is
    passed. -/
theorem runNonStreaming_tries_iff :
    ((runNonStreaming request env health).dispatches ≠ [] ∨
        (runNonStreaming request env health).ending.interrupted = true) ↔
      ¬ NeverTries request.candidates health env.arrival fun _ => false := by
  constructor
  · intro h hnever
    have hends := walkTo_neverTries hnever
    revert h
    unfold runNonStreaming
    cases hwalk : walkTo request env health request.candidates.length with
    | error walked =>
        rw [hwalk] at hends
        exact hends.elim
    | ok state =>
        rw [hwalk] at hends
        rintro (hcalled | hcut)
        · exact hcalled hends.dispatches
        · exact absurd hcut (by simp [exhaustWalk_ending, Ending.interrupted])
  · intro h
    have hends := walkTo_tries h
    unfold runNonStreaming
    cases hwalk : walkTo request env health request.candidates.length with
    | error walked =>
        rw [hwalk] at hends
        exact hends
    | ok state =>
        rw [hwalk] at hends
        exact .inl hends

end NonStreaming

/-! ## The streaming walk -/

section Streaming

variable {request : WalkRequest} {env : StreamSurroundings} {health : ProviderHealth}
  {candidate : ProviderCandidate} {before : StreamState}

/-- What `sender.is_closed()` answers on arrival at each position. -/
def StreamSurroundings.closed (env : StreamSurroundings) (position : Nat) : Bool :=
  (env.arrival position).closed

/-- A streaming walk that has called nothing before a position. -/
structure StreamState.Untried (request : WalkRequest) (health : ProviderHealth)
    (arrival : Nat → Arrival) (position : Nat) (state : StreamState) : Prop where
  holds : state.Holds request position
  last : state.lastCandidate = none
  armed : state.byokFallbackArmed = []
  dispatches : state.dispatches = []
  registry : state.attempts.health = registryBefore health arrival position

/-- A streaming walk that has called some candidate. -/
structure StreamState.Tried (request : WalkRequest) (position : Nat) (state : StreamState) :
    Prop where
  holds : state.Holds request position
  last : state.lastCandidate.isSome = true
  dispatches : state.dispatches ≠ []

/-- A streaming walk that ended before the end of its route. -/
structure Stopped (request : WalkRequest) (walked : Walked) : Prop where
  settled : request.candidates.length ≤ 32767 → SettledOnce request walked
  called : walked.dispatches ≠ [] ∨ walked.ending.interrupted = true

theorem StreamState.Holds.skip (h : state.Holds request bound) (candidate : TierCandidate)
    (outcome : String) (now : Moment) :
    (state.skip candidate outcome now).Holds request (bound + 1) :=
  ⟨h.session, h.ledger.push now.instant rfl rfl⟩

theorem StreamState.start_untried :
    (StreamState.start request health).Untried request health env.arrival 0 :=
  ⟨⟨rfl, .new health⟩, rfl, rfl, rfl, rfl⟩

namespace StreamState.Untried

variable {position : Nat} {state : StreamState}
  (h : state.Untried request health env.arrival position)
include h

theorem registry_meet : (state.meet (env.arrival position).observed).attempts.health =
    registryBefore health env.arrival (position + 1) := by
  rw [registryBefore, ← h.registry]
  rfl

/-- Passing a position leaves a walk untried. -/
theorem skip (candidate : TierCandidate)
    (houtcome : outcome = "policy_skipped" ∨ outcome = "health_skipped") (now : Moment) :
    ((state.meet (env.arrival position).observed).skip candidate outcome now).Untried request
      health env.arrival (position + 1) where
  holds := (h.holds.meet _).skip candidate outcome now
  last := h.last
  armed := h.armed
  dispatches := h.dispatches
  registry := by
    rw [← h.registry_meet]
    exact observe_skipped _ _ _ candidate now houtcome

end StreamState.Untried

/-- The dispatch of a candidate that has passed the skips. -/
theorem dispatchStreaming_ends (h : state.Holds request bound)
    (hmem : candidate ∈ request.candidates) (attempt : StreamTry) :
    Loop.Ends (EndedAt request state bound position) (RecordedStream position candidate state)
      (if candidate.supportsStreaming then
        streamCandidate request env { state with lastCandidate := some candidate.definition }
          position candidate (state.attempts.rows.length + 1) attempt
      else
        bufferCandidate request env state position candidate (state.attempts.rows.length + 1)
          attempt) := by
  by_cases hstream : candidate.supportsStreaming = true
  · rw [if_pos hstream]
    have holds : StreamState.Holds request
        { state with lastCandidate := some candidate.definition } bound :=
      ⟨h.session, h.ledger⟩
    refine (streamCandidate_ends holds hmem rfl attempt).imp ?_ ?_
    · intro walked hwalked
      exact ⟨hwalked.settled, hwalked.called, hwalked.kept⟩
    · intro after hafter
      exact ⟨hafter.row, hafter.call, hafter.last, hafter.session⟩
  · rw [if_neg hstream]
    exact bufferCandidate_ends h hmem attempt

theorem RecordedStream.tried {after : StreamState}
    (record : RecordedStream position candidate before after) (h : before.Holds request bound) :
    after.Tried request (bound + 1) where
  holds := by
    obtain ⟨now, row, hrow, hserved, hno⟩ := record.row
    refine ⟨record.session.trans h.session, ?_⟩
    rw [hrow]
    exact h.ledger.push now hserved hno
  last := by
    rw [record.last]
    rfl
  dispatches := by
    obtain ⟨failure, hcall, -⟩ := record.call
    rw [hcall]
    simp

theorem EndedAt.stopped {walked : Walked} (h : EndedAt request before bound position walked)
    (hbound : bound < request.candidates.length) :
    Stopped request walked where
  settled hlen := h.settled (by omega)
  called := by
    rcases h.called with ⟨call, hcall, -⟩ | ⟨hcut, -⟩
    · exact .inl (ne_nil_of_mem hcall)
    · exact .inr hcut

/-- An untried walk passes a position that is skipped on arrival. -/
theorem visitStreaming_passes (h : state.Untried request health env.arrival position)
    (hskip : SkippedOnArrival request.candidates health env.arrival env.closed position candidate) :
    Loop.Ends (fun _ => False)
      (fun after => after.Untried request health env.arrival (position + 1))
      (visitStreaming request env position candidate state) := by
  unfold visitStreaming
  dsimp only
  rw [StreamState.meet_armed, h.armed, policySkips_nil, h.registry_meet]
  by_cases htwin : candidate.byokFallbackFor.isSome = true
  · rw [if_pos htwin]
    exact h.skip _ (.inl rfl) _
  · rcases hskip with htwin' | ⟨hopen, hdemoted, hmore⟩
    · exact absurd htwin' htwin
    · have hopen : ¬ (env.arrival position).closed = true := by
        rw [show (env.arrival position).closed = false from hopen]
        exact Bool.false_ne_true
      rw [if_neg htwin, if_neg hopen, if_pos (by simp [hdemoted, hmore])]
      exact h.skip _ (.inr rfl) _

/-- A position that is not passed by the skips ends the walk or is called. -/
theorem visitStreaming_calls (hmem : candidate ∈ request.candidates)
    (h : state.Holds request bound)
    (hpolicy : policySkips state.byokFallbackArmed candidate = false)
    (hhealth : (env.arrival position).closed = true ∨
      ((state.attempts.health.observeAll (env.arrival position).observed).shouldSkip
          (env.arrival position).now.instant candidate.definition &&
        (state.lastCandidate.isSome || position + 1 < request.candidates.length)) = false) :
    Loop.Ends (EndedAt request state bound position)
      (RecordedStream position candidate
        ((state.meet (env.arrival position).observed).meet (env.attempt position).observed))
      (visitStreaming request env position candidate state) := by
  have hmet := h.meet (env.arrival position).observed
  unfold visitStreaming
  dsimp only
  rw [StreamState.meet_armed, hpolicy, if_neg Bool.false_ne_true]
  by_cases hclosed : (env.arrival position).closed = true
  · rw [if_pos hclosed]
    exact .of_interruption
      (fun hbound => ⟨_, settleTaken_some hmet.session _, hmet.ledger.sound (by omega) rfl rfl⟩)
      rfl rfl
  · rw [if_neg hclosed, if_neg ?_]
    · cases remainingUpstreamTime env.started (env.attempt position).start with
      | none =>
          exact .of_interruption
            (fun hbound => settleStreamInterruption_settledOnce hmet (by omega) _ _ _ _ _ _) rfl rfl
      | some remaining =>
          refine (dispatchStreaming_ends (hmet.meet _) hmem _).imp ?_ fun _ h => h
          intro walked hwalked
          exact ⟨hwalked.settled, hwalked.called, hwalked.kept⟩
    · rcases hhealth with hclosed' | hhealth
      · exact absurd hclosed' hclosed
      · intro hdemoted
        exact Bool.false_ne_true (hhealth.symm.trans hdemoted)

/-- One position of the streaming walk: passed with a row, or as above. -/
theorem visitStreaming_cases (env : StreamSurroundings) (position : Nat)
    (hmem : candidate ∈ request.candidates) (h : state.Holds request bound) :
    (∃ outcome, visitStreaming request env position candidate state =
      .ok ((state.meet (env.arrival position).observed).skip candidate.definition outcome
        (env.arrival position).now)) ∨
      Loop.Ends (EndedAt request state bound position)
        (RecordedStream position candidate
          ((state.meet (env.arrival position).observed).meet (env.attempt position).observed))
        (visitStreaming request env position candidate state) := by
  by_cases hpolicy : policySkips state.byokFallbackArmed candidate = true
  · refine .inl ⟨"policy_skipped", ?_⟩
    unfold visitStreaming
    dsimp only
    rw [StreamState.meet_armed, if_pos hpolicy]
  · by_cases hclosed : (env.arrival position).closed = true
    · exact .inr (visitStreaming_calls hmem h (Bool.eq_false_iff.mpr hpolicy) (.inl hclosed))
    · by_cases hhealth :
          ((state.attempts.health.observeAll (env.arrival position).observed).shouldSkip
              (env.arrival position).now.instant candidate.definition &&
            (state.lastCandidate.isSome || position + 1 < request.candidates.length)) = true
      · refine .inl ⟨"health_skipped", ?_⟩
        unfold visitStreaming
        dsimp only
        rw [StreamState.meet_armed, StreamState.meet_health, StreamState.meet_lastCandidate,
          if_neg hpolicy, if_neg hclosed, if_pos hhealth]
      · exact .inr (visitStreaming_calls hmem h (Bool.eq_false_iff.mpr hpolicy)
          (.inr (Bool.eq_false_iff.mpr hhealth)))

/-- An untried walk calls the candidate of any other position, unless it is cut short
    first. -/
theorem visitStreaming_tries (hcandidate : request.candidates[position]? = some candidate)
    (h : state.Untried request health env.arrival position)
    (hskip : ¬ SkippedOnArrival request.candidates health env.arrival env.closed position
      candidate) :
    Loop.Ends (Stopped request) (fun after => after.Tried request (position + 1))
      (visitStreaming request env position candidate state) := by
  refine (visitStreaming_calls (List.mem_of_getElem? hcandidate) h.holds ?_ ?_).imp ?_ ?_
  · rw [h.armed, policySkips_nil]
    exact Bool.eq_false_iff.mpr fun htwin => hskip (.inl htwin)
  · by_cases hclosed : (env.arrival position).closed = true
    · exact .inl hclosed
    · refine .inr (Bool.eq_false_iff.mpr ?_)
      intro hdemoted
      rw [h.last] at hdemoted
      have hboth := (Bool.and_eq_true _ _).mp hdemoted
      refine hskip (.inr ⟨Bool.eq_false_iff.mpr hclosed, ?_, by simpa using hboth.2⟩)
      rw [← h.registry_meet]
      exact hboth.1
  · intro walked hwalked
    exact hwalked.stopped (List.getElem?_eq_some_iff.mp hcandidate).1
  · intro after record
    exact record.tried ((h.holds.meet _).meet _)

/-- A walk that has called a candidate keeps its session and its calls. -/
theorem visitStreaming_stays (hcandidate : request.candidates[position]? = some candidate)
    (h : state.Tried request position) :
    Loop.Ends (Stopped request) (fun after => after.Tried request (position + 1))
      (visitStreaming request env position candidate state) := by
  rcases visitStreaming_cases env position (List.mem_of_getElem? hcandidate) h.holds with
    ⟨outcome, hskip⟩ | hends
  · rw [hskip]
    exact ⟨(h.holds.meet _).skip _ outcome _, h.last, h.dispatches⟩
  · refine hends.imp ?_ ?_
    · intro walked hwalked
      exact hwalked.stopped (List.getElem?_eq_some_iff.mp hcandidate).1
    · intro after record
      exact record.tried ((h.holds.meet _).meet _)

/-- A walk whose every position is passed ends with nothing called. -/
theorem streamTo_neverTries
    (h : NeverTries request.candidates health env.arrival env.closed) :
    Loop.Ends (fun _ => False)
      (fun state => state.Untried request health env.arrival request.candidates.length)
      (streamTo request env health request.candidates.length) := by
  unfold streamTo
  rw [take_length]
  refine Loop.enumerate_ends _ _
    (fun position (state : StreamState) => state.Untried request health env.arrival position) _ ?_
    StreamState.start_untried
  intro position candidate state hcandidate huntried
  exact visitStreaming_passes huntried (h position candidate hcandidate)

/-- A walk some position of which is not passed calls a candidate, unless it is cut
    short first. -/
theorem streamTo_tries (h : ¬ NeverTries request.candidates health env.arrival env.closed) :
    Loop.Ends (Stopped request)
      (fun state => state.Tried request request.candidates.length)
      (streamTo request env health request.candidates.length) := by
  unfold streamTo
  rw [take_length]
  refine Loop.enumerate_touches
    (fun position (state : StreamState) => state.Untried request health env.arrival position)
    (fun position (state : StreamState) => state.Tried request position)
    (SkippedOnArrival request.candidates health env.arrival env.closed)
    ?_ ?_ ?_ StreamState.start_untried h
  · intro position candidate state _ huntried hskip
    exact (visitStreaming_passes huntried hskip).imp (fun _ h => h.elim) fun _ h => h
  · intro position candidate state hcandidate huntried hskip
    exact visitStreaming_tries hcandidate huntried hskip
  · intro position candidate state hcandidate htried
    exact visitStreaming_stays hcandidate htried

/-- The end of the route, for a walk that called nothing: its session is dropped. -/
theorem streamToChannel_neverTries
    (h : NeverTries request.candidates health env.arrival env.closed) :
    (streamToChannel request env health).settles = [] ∧
      (streamToChannel request env health).dispatches = [] ∧
      (streamToChannel request env health).ending = .exhausted := by
  have hends := streamTo_neverTries h
  unfold streamToChannel
  cases hwalk : streamTo request env health request.candidates.length with
  | error walked =>
      rw [hwalk] at hends
      exact hends.elim
  | ok state =>
      rw [hwalk] at hends
      simp [exhaustStream, hends.last, hends.dispatches]

/-- The end of the route, for a walk that called a candidate. -/
theorem exhaustStream_stopped (h : state.Tried request request.candidates.length) (now : Moment) :
    Stopped request (exhaustStream request env state now) := by
  obtain ⟨candidate, hlast⟩ := Option.isSome_iff_exists.mp h.last
  unfold exhaustStream
  rw [hlast]
  exact
    { settled := fun hlen =>
        ⟨_, settleTaken_some h.holds.session _, h.holds.ledger.sound hlen rfl rfl⟩
      called := .inl h.dispatches }

theorem streamToChannel_stopped
    (h : ¬ NeverTries request.candidates health env.arrival env.closed) :
    Stopped request (streamToChannel request env health) := by
  have hends := streamTo_tries h
  unfold streamToChannel
  cases hwalk : streamTo request env health request.candidates.length with
  | error walked =>
      rw [hwalk] at hends
      exact hends
  | ok state =>
      rw [hwalk] at hends
      exact exhaustStream_stopped hends _

end Streaming

/-! ## A route of a demoted rung and its twin -/

namespace DemotedTwin

def inventory : ProviderInventory :=
  [{ key := "anthropic"
     adapter := .anthropic
     credential := .required
     credentialEnv := some "ANTHROPIC_API_KEY"
     needsMinting := false
     baseUrl := none
     regionEnv := none
     projectEnv := none
     baseUrlOverride := none
     attestation := none
     surfaces := [] }]

def candidate : TierCandidate where
  id := "claude"
  provider := "anthropic"
  model := "claude"
  surface := none
  rates := .flat ⟨some 3, some 15, none, none⟩

/-- The customer's key, opted in to the house fallback. -/
def credentials : ByokCredentials := { byProvider := [("anthropic", "customer", true)] }

def environment : String → Option String := fun _ => some "house"

def client (credential : String) : ModelProvider where
  adapter := .anthropic
  credential := credential
  endpoint := none
  maxOutputTokens := 64
  attestation := none
  supportsStreaming := true

def route : List ProviderCandidate :=
  [⟨candidate, client "customer", true, none⟩, ⟨candidate, client "house", false, some "anthropic"⟩]

def request : WalkRequest where
  session := ⟨1, 1, 1, true, 64, none⟩
  resolved := ⟨"claude", [candidate], candidate.rates⟩
  messages := [⟨"user", "hello"⟩]
  candidates := route

def start : Moment := ⟨0, 0⟩

/-- A registry two failures of the rung have been recorded into. -/
def registry : ProviderHealth :=
  let row := buildAttempt 1 candidate "upstream_error" false start start .unknown false
  ProviderHealth.empty.observeAll [(0, row), (0, row)]

def arrival : Nat → Arrival := fun _ => ⟨start, [], false⟩

/-- Every candidate answers, were it called. -/
def env : Surroundings where
  started := start
  arrival := arrival
  attempt _ _ := ⟨start, .answered ⟨some "hi", [], none, none⟩, [], start, fun _ => true⟩
  persists _ := true

def streamEnv : StreamSurroundings where
  started := start
  arrival := arrival
  attempt _ :=
    { start, call := .elapsed, steps := [], stop := .final, opened := true, observed := []
      finish := start, closed := false }
  persists _ := true

/-- The route is what assembly and ordering make of the one candidate. -/
theorem route_built :
    ((buildWithByok inventory 64 credentials environment [candidate]).toOption.map fun built =>
      orderCandidates .balanced ⟨fun _ => none, fun _ => false, fun _ => true⟩ registry 0
        built.candidates) = some route := by
  decide +kernel

theorem neverTries : NeverTries route registry arrival fun _ => false := by
  intro position candidate hcandidate
  match position with
  | 0 =>
      cases hcandidate
      exact .inr ⟨rfl, by decide +kernel, by decide⟩
  | 1 =>
      cases hcandidate
      exact .inl rfl
  | _ + 2 => cases hcandidate

end DemotedTwin

/-! ## Both walks -/

/-- A walk dispatches some candidate, unless it is cut short, exactly when some
    position of its route is not passed by the skips. -/
theorem walk_dispatches_iff (request : WalkRequest) (health : ProviderHealth)
    (env : Surroundings) (streamEnv : StreamSurroundings) :
    (((runNonStreaming request env health).dispatches ≠ [] ∨
        (runNonStreaming request env health).ending.interrupted = true) ↔
      ¬ NeverTries request.candidates health env.arrival fun _ => false) ∧
    (((streamToChannel request streamEnv health).dispatches ≠ [] ∨
        (streamToChannel request streamEnv health).ending.interrupted = true) ↔
      ¬ NeverTries request.candidates health streamEnv.arrival streamEnv.closed) := by
  refine ⟨runNonStreaming_tries_iff, ?_, ?_⟩
  · intro h hnever
    obtain ⟨-, hnone, hending⟩ := streamToChannel_neverTries hnever
    rcases h with hcalled | hcut
    · exact hcalled hnone
    · rw [hending] at hcut
      cases hcut
  · intro htries
    exact (streamToChannel_stopped htries).called

/-- A demoted rung with its opted-in twin behind it: neither walk dispatches it. -/
theorem demotedTwin_not_dispatched :
    ((buildWithByok DemotedTwin.inventory 64 DemotedTwin.credentials DemotedTwin.environment
        [DemotedTwin.candidate]).toOption.map fun built =>
      orderCandidates .balanced ⟨fun _ => none, fun _ => false, fun _ => true⟩
        DemotedTwin.registry 0 built.candidates) = some DemotedTwin.request.candidates ∧
      ((runNonStreaming DemotedTwin.request DemotedTwin.env DemotedTwin.registry).dispatches = [] ∧
        (runNonStreaming DemotedTwin.request DemotedTwin.env DemotedTwin.registry).ending =
          .exhausted) ∧
      ((streamToChannel DemotedTwin.request DemotedTwin.streamEnv
          DemotedTwin.registry).dispatches = [] ∧
        (streamToChannel DemotedTwin.request DemotedTwin.streamEnv
          DemotedTwin.registry).ending = .exhausted) := by
  refine ⟨DemotedTwin.route_built, ?_, (streamToChannel_neverTries DemotedTwin.neverTries).2⟩
  decide +kernel

end ZeroRouter
