import ZeroRouter.Proofs.Skips

/-!
# An earned fallback

A customer credential that failed in a way the opt-in covers arms its house twin.
The twin is then called when the walk comes to it, unless health demotes it: it
shares its health key with the rung whose failure armed it.
-/

namespace ZeroRouter

open List

variable {position j : Nat} {candidate rung twin : ProviderCandidate} {failure : Failure}
  {state : StreamState}

/-- What a walk going on to position `bound` remembers: only earlier calls, a
    candidate last tried if there was any, and the fallback armed by each failure that
    earned it. -/
structure Remembers (candidates : List ProviderCandidate) (bound : Nat)
    (dispatches : List Dispatch) (armed : List String) (last : Option TierCandidate) : Prop where
  earlier : ∀ call ∈ dispatches, call.position < bound
  tried : dispatches ≠ [] → last.isSome = true
  arms : ∀ call ∈ dispatches, ∀ failure, call.failure = some failure →
    failure.permitsByokFallback = true → ∀ rung, candidates[call.position]? = some rung →
      rung.byok = true → rung.definition.provider ∈ armed

theorem mem_armFallback_of_mem {armed : List String} {provider : String} (h : provider ∈ armed) :
    provider ∈ armFallback candidate failure armed := by
  unfold armFallback
  split
  · exact mem_cons_of_mem _ h
  · exact h

namespace Remembers

variable {candidates : List ProviderCandidate} {bound : Nat} {dispatches : List Dispatch}
  {armed : List String} {last : Option TierCandidate}

theorem nil : Remembers candidates 0 [] [] none :=
  ⟨by simp, by simp, by simp⟩

theorem mono (h : Remembers candidates bound dispatches armed last) {bound' : Nat}
    (hle : bound ≤ bound') : Remembers candidates bound' dispatches armed last :=
  { h with earlier := fun call hcall => (h.earlier call hcall).trans_le hle }

/-- One more call. -/
theorem call (h : Remembers candidates (position + 1) dispatches armed last)
    (hcandidate : candidates[position]? = some candidate) (failure : Option Failure) :
    Remembers candidates (position + 1) (dispatches ++ [⟨position, failure⟩])
      (failure.elim armed (armFallback candidate · armed)) (some candidate.definition) where
  earlier := by
    intro call hcall
    rcases mem_append.mp hcall with hcall | hcall
    · exact h.earlier call hcall
    · rw [mem_singleton.mp hcall]
      exact Nat.lt_succ_self position
  tried := fun _ => rfl
  arms := by
    intro call hcall found hfound hpermits rung hrung hbyok
    rcases mem_append.mp hcall with hcall | hcall
    · have := h.arms call hcall found hfound hpermits rung hrung hbyok
      cases failure with
      | none => exact this
      | some failure => exact mem_armFallback_of_mem this
    · cases mem_singleton.mp hcall
      cases hfound
      rw [hcandidate] at hrung
      cases hrung
      simp [armFallback, hbyok, hpermits]

/-- A twin of a rung that failed so is not skipped by policy. -/
theorem not_policySkips (h : Remembers candidates bound dispatches armed last)
    (hcall : ⟨position, some failure⟩ ∈ dispatches)
    (hpermits : failure.permitsByokFallback = true) (hrung : candidates[position]? = some rung)
    (hbyok : rung.byok = true) (hfor : twin.byokFallbackFor = some rung.definition.provider) :
    policySkips armed twin = false := by
  have := h.arms _ hcall failure rfl hpermits rung hrung hbyok
  simp [policySkips, hfor, this]

theorem not_dispatchedAt (h : Remembers candidates bound dispatches armed last) :
    ¬ dispatchedAt dispatches bound := by
  rintro ⟨call, hcall, rfl⟩
  exact Nat.lt_irrefl _ (h.earlier call hcall)

end Remembers

/-- The candidate at a position was called, or the walk was cut short there first. -/
def CalledAt (position : Nat) (walked : Walked) : Prop :=
  dispatchedAt walked.dispatches position ∨ walked.ending.interrupted = true

theorem dispatchedAt.mono {dispatches dispatches' : List Dispatch}
    (h : dispatchedAt dispatches position) (hsub : dispatches ⊆ dispatches') :
    dispatchedAt dispatches' position := by
  obtain ⟨call, hcall, hposition⟩ := h
  exact ⟨call, hsub hcall, hposition⟩

/-- The loop over a route, one position further. -/
theorem enumerate_take_succ {σ ρ : Type} {body : Nat → ProviderCandidate → σ → Except ρ σ}
    {candidates : List ProviderCandidate} (hcandidate : candidates[position]? = some candidate)
    {s t : σ} (h : Loop.enumerate body 0 (candidates.take position) s = .ok t) :
    Loop.enumerate body 0 (candidates.take (position + 1)) s = body position candidate t := by
  have hlen := (List.getElem?_eq_some_iff.mp hcandidate).1
  rw [List.take_add_one, hcandidate, Loop.enumerate_append, h]
  simp only [List.length_take, Nat.min_eq_left (Nat.le_of_lt hlen), Option.toList_some,
    Nat.zero_add]
  cases hbody : body position candidate t with
  | ok u => rw [Loop.enumerate_cons hbody]; rfl
  | error r => exact Loop.enumerate_cons_error hbody

/-! ## The buffered walk -/

section NonStreaming

variable {request : WalkRequest} {env : Surroundings} {health : ProviderHealth}

def WalkState.Remembers (request : WalkRequest) (bound : Nat) (state : WalkState) : Prop :=
  ZeroRouter.Remembers request.candidates bound state.dispatches state.byokFallbackArmed
    state.lastCandidate

theorem attemptRule_remembers (hcandidate : request.candidates[position]? = some candidate) :
    AttemptRule request env position candidate
      (fun _ state => state.Remembers request (position + 1)) (fun _ => True) where
  meet observed h := h
  repair messages h := h
  recorded := by
    intro n s s' _ h record
    obtain ⟨failure, hdispatches, harmed⟩ := record.call
    unfold WalkState.Remembers
    rw [hdispatches, harmed, record.last]
    exact h.call hcandidate failure
  cut _ _ _ _ := trivial
  exhaust _ _ := trivial
  serve _ _ _ _ _ := trivial

theorem visitCandidate_remembers (hcandidate : request.candidates[position]? = some candidate)
    {state : WalkState} (h : state.Remembers request position) :
    Loop.Ends (fun _ => True) (fun after => after.Remembers request (position + 1))
      (visitCandidate request env position candidate state) := by
  have hnext : (state.meet (env.arrival position).observed).Remembers request (position + 1) :=
    h.mono (Nat.le_succ _)
  unfold visitCandidate
  dsimp only
  split
  · exact hnext
  · split
    · exact hnext
    · refine ((attemptRule_remembers hcandidate).runAttempts_ends hnext).imp
        (fun _ h => h) ?_
      rintro after ⟨n, -, h⟩
      exact h

theorem walkTo_remembers {state : WalkState} (h : walkTo request env health position = .ok state)
    (hlen : position ≤ request.candidates.length) :
    state.Remembers request position := by
  have run := Loop.enumerate_ends (visitCandidate request env) (fun _ => True)
    (fun position (state : WalkState) => state.Remembers request position)
    (request.candidates.take position) ?_
    (show (WalkState.start request health).Remembers request 0 from .nil)
  · rw [show Loop.enumerate (visitCandidate request env) 0 (request.candidates.take position)
      (WalkState.start request health) = .ok state from h, length_take,
      Nat.min_eq_left hlen] at run
    exact run
  · intro index candidate state hcandidate h
    refine visitCandidate_remembers ?_ h
    rw [getElem?_take] at hcandidate
    split at hcandidate
    · exact hcandidate
    · cases hcandidate

/-- On arrival at an armed twin the buffered walk calls it or is cut short, exactly when
    health does not demote it. -/
theorem walkTo_twin_iff {i : Nat} {state : WalkState} (hrung : request.candidates[i]? = some rung)
    (hbyok : rung.byok = true) (htwin : request.candidates[j]? = some twin)
    (hfor : twin.byokFallbackFor = some rung.definition.provider)
    (harrives : walkTo request env health j = .ok state)
    (hfailed : ⟨i, some failure⟩ ∈ state.dispatches)
    (hpermits : failure.permitsByokFallback = true) :
    Loop.Ends (CalledAt j) (fun after => dispatchedAt after.dispatches j)
        (walkTo request env health (j + 1)) ↔
      (state.attempts.health.observeAll (env.arrival j).observed).shouldSkip
        (env.arrival j).now.instant twin.definition = false := by
  have hremembers := walkTo_remembers harrives
    (Nat.le_of_lt (List.getElem?_eq_some_iff.mp htwin).1)
  have hpolicy := hremembers.not_policySkips hfailed hpermits hrung hbyok hfor
  have hlast := hremembers.tried (List.ne_nil_of_mem hfailed)
  have hvisit : walkTo request env health (j + 1) = visitCandidate request env j twin state :=
    enumerate_take_succ htwin harrives
  rw [hvisit]
  unfold visitCandidate
  dsimp only
  rw [WalkState.meet_armed, hpolicy, if_neg Bool.false_ne_true, WalkState.meet_health,
    WalkState.meet_lastCandidate, hlast, Bool.true_or, Bool.and_true]
  by_cases hdemoted : (state.attempts.health.observeAll (env.arrival j).observed).shouldSkip
      (env.arrival j).now.instant twin.definition = true
  · rw [if_pos hdemoted]
    constructor
    · intro hcalled
      exact absurd hcalled hremembers.not_dispatchedAt
    · intro hnot
      exact absurd (hdemoted.symm.trans hnot) (by decide)
  · rw [if_neg hdemoted]
    refine ⟨fun _ => Bool.eq_false_iff.mpr hdemoted, fun _ => ?_⟩
    exact (runAttempts_calls j twin _).imp (fun _ h => h.2) fun _ h => h.2

/-- Once called, a position stays so to the end of the buffered walk. -/
theorem runNonStreaming_calledAt (hj : j < request.candidates.length)
    (h : Loop.Ends (CalledAt j) (fun after => dispatchedAt after.dispatches j)
      (walkTo request env health (j + 1))) : CalledAt j (runNonStreaming request env health) := by
  have run : Loop.Ends (CalledAt j) (fun after => dispatchedAt after.dispatches j)
      (walkTo request env health request.candidates.length) := by
    unfold walkTo at h ⊢
    rw [take_length]
    refine Loop.enumerate_ends_after (visitCandidate request env) (CalledAt j)
      (fun _ (state : WalkState) => dispatchedAt state.dispatches j) request.candidates ?_ hj h
    intro position candidate state _ hcalled
    refine (visitCandidate_grows position candidate state).imp ?_ ?_
    · intro walked hsub
      exact .inl (hcalled.mono hsub)
    · intro after hsub
      exact hcalled.mono hsub
  unfold runNonStreaming
  cases hwalk : walkTo request env health request.candidates.length with
  | error walked =>
      rw [hwalk] at run
      exact run
  | ok state =>
      rw [hwalk] at run
      exact .inl run

end NonStreaming

/-! ## The streaming walk -/

section Streaming

variable {request : WalkRequest} {env : StreamSurroundings} {health : ProviderHealth}

/-- A streaming walk that holds its session and remembers its calls. -/
structure StreamState.Remembers (request : WalkRequest) (bound : Nat) (state : StreamState) :
    Prop where
  holds : state.Holds request bound
  calls : ZeroRouter.Remembers request.candidates bound state.dispatches state.byokFallbackArmed
    state.lastCandidate

theorem visitStreaming_remembers (env : StreamSurroundings)
    (hcandidate : request.candidates[position]? = some candidate)
    (h : state.Remembers request position) :
    Loop.Ends (fun _ => True) (fun after => after.Remembers request (position + 1))
      (visitStreaming request env position candidate state) := by
  rcases visitStreaming_cases env position (mem_of_getElem? hcandidate) h.holds with
    ⟨outcome, hskip⟩ | hends
  · rw [hskip]
    exact ⟨(h.holds.meet _).skip _ outcome _, h.calls.mono (Nat.le_succ _)⟩
  · refine hends.imp (fun _ _ => trivial) ?_
    intro after record
    refine ⟨(record.tried ((h.holds.meet _).meet _)).holds, ?_⟩
    obtain ⟨failure, hdispatches, harmed⟩ := record.call
    rw [hdispatches, harmed, record.last]
    exact (h.calls.mono (Nat.le_succ _)).call hcandidate (some failure)

theorem streamTo_remembers (h : streamTo request env health position = .ok state)
    (hlen : position ≤ request.candidates.length) : state.Remembers request position := by
  have run := Loop.enumerate_ends (visitStreaming request env) (fun _ => True)
    (fun position (state : StreamState) => state.Remembers request position)
    (request.candidates.take position) ?_
    (show (StreamState.start request health).Remembers request 0 from
      ⟨⟨rfl, .new health⟩, .nil⟩)
  · rw [show Loop.enumerate (visitStreaming request env) 0 (request.candidates.take position)
      (StreamState.start request health) = .ok state from h, length_take,
      Nat.min_eq_left hlen] at run
    exact run
  · intro index candidate state hcandidate h
    refine visitStreaming_remembers env ?_ h
    rw [getElem?_take] at hcandidate
    split at hcandidate
    · exact hcandidate
    · cases hcandidate

/-- On arrival at an armed twin the streaming walk calls it or is cut short, exactly
    when the client is gone or health does not demote it. -/
theorem streamTo_twin_iff {i : Nat} (hrung : request.candidates[i]? = some rung)
    (hbyok : rung.byok = true) (htwin : request.candidates[j]? = some twin)
    (hfor : twin.byokFallbackFor = some rung.definition.provider)
    (harrives : streamTo request env health j = .ok state)
    (hfailed : ⟨i, some failure⟩ ∈ state.dispatches)
    (hpermits : failure.permitsByokFallback = true) :
    Loop.Ends (CalledAt j) (fun after => dispatchedAt after.dispatches j)
        (streamTo request env health (j + 1)) ↔
      ((env.arrival j).closed = true ∨
        (state.attempts.health.observeAll (env.arrival j).observed).shouldSkip
          (env.arrival j).now.instant twin.definition = false) := by
  have hremembers := streamTo_remembers harrives
    (Nat.le_of_lt (List.getElem?_eq_some_iff.mp htwin).1)
  have hpolicy := hremembers.calls.not_policySkips hfailed hpermits hrung hbyok hfor
  have hlast := hremembers.calls.tried (List.ne_nil_of_mem hfailed)
  have hvisit : streamTo request env health (j + 1) = visitStreaming request env j twin state :=
    enumerate_take_succ htwin harrives
  rw [hvisit]
  constructor
  · intro hcalled
    by_contra hnot
    rw [not_or] at hnot
    have hdemoted := Bool.not_eq_false _ ▸ hnot.2
    unfold visitStreaming at hcalled
    dsimp only at hcalled
    rw [StreamState.meet_armed, hpolicy, if_neg Bool.false_ne_true, if_neg hnot.1,
      StreamState.meet_health, StreamState.meet_lastCandidate, hlast, Bool.true_or, Bool.and_true,
      if_pos hdemoted] at hcalled
    exact hremembers.calls.not_dispatchedAt hcalled
  · intro h
    refine (visitStreaming_calls (List.mem_of_getElem? htwin) hremembers.holds hpolicy ?_).imp ?_ ?_
    · rcases h with hclosed | hhealthy
      · exact .inl hclosed
      · exact .inr (by rw [hhealthy, Bool.false_and])
    · intro walked hwalked
      rcases hwalked.called with hcalled | ⟨hcut, -⟩
      · exact .inl hcalled
      · exact .inr hcut
    · intro after record
      obtain ⟨failure, hdispatches, -⟩ := record.call
      rw [hdispatches]
      exact dispatchedAt_append _ _ _

/-- One position of the streaming walk keeps the calls made before it. -/
theorem visitStreaming_grows (env : StreamSurroundings)
    (hcandidate : request.candidates[position]? = some candidate)
    (h : state.Remembers request position) :
    Loop.Ends (fun walked => state.dispatches ⊆ walked.dispatches)
      (fun after => state.dispatches ⊆ after.dispatches)
      (visitStreaming request env position candidate state) := by
  rcases visitStreaming_cases env position (mem_of_getElem? hcandidate) h.holds with
    ⟨outcome, hskip⟩ | hends
  · rw [hskip]
    exact List.Subset.refl _
  · refine hends.imp (fun walked hwalked => hwalked.kept) ?_
    intro after record
    obtain ⟨failure, hdispatches, -⟩ := record.call
    rw [hdispatches]
    exact subset_append_left _ _

theorem exhaustStream_dispatches (state : StreamState) (now : Moment) :
    (exhaustStream request env state now).dispatches = state.dispatches := by
  unfold exhaustStream
  cases state.lastCandidate <;> rfl

/-- Once called, a position stays so to the end of the streaming walk. -/
theorem streamToChannel_calledAt (hj : j < request.candidates.length)
    (h : Loop.Ends (CalledAt j) (fun after => dispatchedAt after.dispatches j)
      (streamTo request env health (j + 1))) :
    CalledAt j (streamToChannel request env health) := by
  have run : Loop.Ends (CalledAt j)
      (fun after => after.Remembers request request.candidates.length ∧
        dispatchedAt after.dispatches j)
      (streamTo request env health request.candidates.length) := by
    have start : Loop.Ends (CalledAt j)
        (fun after => after.Remembers request (j + 1) ∧ dispatchedAt after.dispatches j)
        (streamTo request env health (j + 1)) := by
      cases hwalk : streamTo request env health (j + 1) with
      | error walked =>
          rw [hwalk] at h
          exact h
      | ok state =>
          rw [hwalk] at h
          exact ⟨streamTo_remembers hwalk hj, h⟩
    unfold streamTo at start ⊢
    rw [take_length]
    refine Loop.enumerate_ends_after (visitStreaming request env) (CalledAt j)
      (fun position (state : StreamState) =>
        state.Remembers request position ∧ dispatchedAt state.dispatches j)
      request.candidates ?_ hj start
    rintro position candidate state hcandidate ⟨hremembers, hcalled⟩
    have hgrows := visitStreaming_grows env hcandidate hremembers
    have hnext := visitStreaming_remembers env hcandidate hremembers
    cases hvisit : visitStreaming request env position candidate state with
    | error walked =>
        rw [hvisit] at hgrows
        exact .inl (hcalled.mono hgrows)
    | ok after =>
        rw [hvisit] at hgrows hnext
        exact ⟨hnext, hcalled.mono hgrows⟩
  unfold streamToChannel
  cases hwalk : streamTo request env health request.candidates.length with
  | error walked =>
      rw [hwalk] at run
      exact run
  | ok state =>
      rw [hwalk] at run
      refine .inl ?_
      dsimp only
      rw [exhaustStream_dispatches]
      exact run.2

end Streaming

/-! ## Both walks -/

namespace FailingRung

/-- The upstream answers every call with the same status. -/
def env (status : Nat) : Surroundings where
  started := DemotedTwin.start
  arrival := DemotedTwin.arrival
  attempt _ _ :=
    ⟨DemotedTwin.start, .failed ⟨some status, "refused", none, none⟩, [], DemotedTwin.start,
      fun _ => true⟩
  persists _ := true

/-- The streamed sibling of `env`: the stream is refused before it opens. -/
def streamEnv (status : Nat) : StreamSurroundings where
  started := DemotedTwin.start
  arrival := DemotedTwin.arrival
  attempt _ :=
    { start := DemotedTwin.start, call := .elapsed, steps := []
      stop := .failed ⟨some status, "refused", none, none⟩, opened := false, observed := []
      finish := DemotedTwin.start, closed := false }
  persists _ := true

end FailingRung

end ZeroRouter
