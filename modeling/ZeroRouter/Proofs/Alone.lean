import ZeroRouter.Proofs.Isolation

/-!
# A request left alone

The moves a request makes in the process are, when no other request moves between them, the
pipeline and then the whole walk: `run_non_streaming` or `stream_to_channel`, over the registry as
the request found it.
-/

namespace ZeroRouter

/-! ## Moves that follow one another -/

/-- A request stands somewhere on its walk, over the registry its walk holds there. -/
def Process.Holds (process : Process) (who : Nat) (standing : Standing) : Prop :=
  process.standing who = standing.on .empty ∧
    ∀ found, standing.registry found = process.health

variable (catalog : TierCatalog) (requests : Nat → Serving) (who : Nat)

/-- The moves of one request alone lead it from one place of its walk to another. -/
def Leads (first last : Standing) : Prop :=
  ∀ process : Process, process.Holds who first →
    ∃ count, (process.run catalog requests (List.replicate count who)).Holds who last

variable {catalog requests who}

theorem Leads.refl (standing : Standing) : Leads catalog requests who standing standing :=
  fun _ holds => ⟨0, holds⟩

theorem Leads.trans {first second third : Standing}
    (h : Leads catalog requests who first second) (h' : Leads catalog requests who second third) :
    Leads catalog requests who first third := by
  intro process holds
  obtain ⟨count, holds⟩ := h process holds
  obtain ⟨count', holds⟩ := h' _ holds
  refine ⟨count + count', ?_⟩
  rw [List.replicate_add, Process.run, List.foldl_append]
  exact holds

theorem Leads.move {standing next : Standing}
    (moves : ∀ health, (∀ found, standing.registry found = health) →
      (requests who).move catalog health (standing.on .empty) = next)
    (carried : ∀ found found', next.registry found = next.registry found') :
    Leads catalog requests who standing next := by
  intro process holds
  have moved : (requests who).move catalog process.health (process.standing who) = next := by
    rw [holds.1]
    exact moves process.health holds.2
  refine ⟨1, ?_, fun found => ?_⟩
  · show (process.move catalog requests who).standing who = _
    rw [Process.move_standing_self, moved]
  · show next.registry found = Standing.registry process.health _
    rw [moved]
    exact carried _ _

variable {walk : WalkRequest}

/-- Where a candidate leaves its walk. -/
def onward {σ : Type} (place : Nat → σ → Standing) (walk : WalkRequest) (position : Nat) :
    Except Walked σ → Standing
  | .ok state => place (position + 1) state
  | .error walked => .finished walk walked

/-- A walk whose candidates are taken one at a time is the rest of its loop. -/
theorem leads_loop {σ : Type} {place : Nat → σ → Standing}
    {visit : Nat → ProviderCandidate → σ → Except Walked σ} {exhaust : σ → Walked}
    (visits : ∀ position candidate state, walk.candidates[position]? = some candidate →
      Leads catalog requests who (place position state)
        (onward place walk position (visit position candidate state)))
    (ends : ∀ state, Leads catalog requests who (place walk.candidates.length state)
      (.finished walk (exhaust state)))
    (rest : List ProviderCandidate) (position : Nat) (state : σ)
    (within : position ≤ walk.candidates.length) (here : walk.candidates.drop position = rest) :
    Leads catalog requests who (place position state)
      (.finished walk
        (match Loop.enumerate visit position rest state with
          | .error walked => walked
          | .ok state => exhaust state)) := by
  induction rest generalizing position state with
  | nil =>
      have there : position = walk.candidates.length := by
        rw [List.drop_eq_nil_iff] at here
        omega
      subst there
      exact ends state
  | cons candidate rest ih =>
      have found : walk.candidates[position]? = some candidate := by
        rw [← List.head?_drop, here]
        rfl
      have later : walk.candidates.drop (position + 1) = rest := by
        rw [← List.tail_drop, here]
        rfl
      apply (visits position candidate state found).trans
      rw [Loop.enumerate]
      cases visit position candidate state with
      | ok state => exact ih (position + 1) state (List.getElem?_eq_some_iff.mp found).1 later
      | error walked => exact .refl _

theorem leads_attempt (position : Nat) (candidate : ProviderCandidate) (index : Nat)
    (rung : RungState) :
    Leads catalog requests who (.attempting walk position candidate index rung)
      (attemptBuffered walk (requests who).buffered.alone position candidate index rung) := by
  apply Leads.move
  · intro health held
    rw [← held health]
    rfl
  · intro found found'
    unfold attemptBuffered
    cases attemptCandidate walk (requests who).buffered.alone position candidate index () rung with
    | ok rung =>
        unfold leaveAttempt
        dsimp only
        split <;> rfl
    | error exit => cases exit <;> rfl

theorem leads_visit (position : Nat) (state : WalkState) :
    Leads catalog requests who (.visiting walk position state)
      (arriveBuffered walk (requests who).buffered.alone position state) := by
  apply Leads.move
  · intro health held
    rw [← held health]
    rfl
  · intro found found'
    rw [arriveBuffered_registry, arriveBuffered_registry]

/-- The attempts left of a candidate's budget are the rest of its attempt loop. -/
theorem leads_attempts (position : Nat) (candidate : ProviderCandidate) (left index : Nat)
    (budget : index + left = candidateRetries) (rung : RungState) :
    Leads catalog requests who (.attempting walk position candidate index rung)
      (onward (.visiting walk) walk position
        (match Loop.enumerate
            (attemptCandidate walk (requests who).buffered.alone position candidate) index
            (List.replicate (left + 1) ()) rung with
          | .ok rung => .ok rung.walk
          | .error (.nextCandidate state) => .ok state
          | .error (.leaveWalk state now) =>
              .error (exhaustWalk walk (requests who).buffered.alone state now)
          | .error (.done walked) => .error walked)) := by
  induction left generalizing index rung with
  | zero =>
      apply (leads_attempt position candidate index rung).trans
      unfold attemptBuffered
      rw [List.replicate_one, Loop.enumerate]
      cases attemptCandidate walk (requests who).buffered.alone position candidate index () rung with
      | ok rung =>
          have last : ¬ index < candidateRetries := by omega
          dsimp only [Loop.enumerate, leaveAttempt]
          rw [if_neg last]
          exact .refl _
      | error exit => cases exit <;> exact .refl _
  | succ left ih =>
      apply (leads_attempt position candidate index rung).trans
      unfold attemptBuffered
      rw [List.replicate_succ, Loop.enumerate]
      cases attemptCandidate walk (requests who).buffered.alone position candidate index () rung with
      | ok rung =>
          have more : index < candidateRetries := by omega
          dsimp only [leaveAttempt]
          rw [if_pos more]
          exact ih (index + 1) (by omega) rung
      | error exit => cases exit <;> exact .refl _

theorem leads_candidate {position : Nat} {candidate : ProviderCandidate}
    (found : walk.candidates[position]? = some candidate) (state : WalkState) :
    Leads catalog requests who (.visiting walk position state)
      (onward (.visiting walk) walk position
        (visitCandidate walk (requests who).buffered.alone position candidate state)) := by
  apply (leads_visit position state).trans
  unfold arriveBuffered visitCandidate skipsCandidate
  have lone : state.meet ((requests who).buffered.alone.arrival position).observed = state := rfl
  rw [found]
  dsimp only
  rw [lone]
  by_cases policy : policySkips state.byokFallbackArmed candidate = true
  · rw [if_pos policy, if_pos policy]
    exact .refl _
  · rw [if_neg policy, if_neg policy]
    by_cases demoted : (state.attempts.health.shouldSkip
        ((requests who).buffered.alone.arrival position).now.instant candidate.definition &&
        (state.lastCandidate.isSome || position + 1 < walk.candidates.length)) = true
    · rw [if_pos demoted, if_pos demoted]
      exact .refl _
    · rw [if_neg demoted, if_neg demoted]
      exact leads_attempts position candidate candidateRetries 0 (Nat.zero_add _) _

/-- A buffered walk left alone is `run_non_streaming`. -/
theorem leads_runNonStreaming (health : ProviderHealth) :
    Leads catalog requests who (.visiting walk 0 (WalkState.start walk health))
      (.finished walk (runNonStreaming walk (requests who).buffered.alone health)) := by
  unfold runNonStreaming walkTo
  rw [List.take_length]
  have ends (state : WalkState) : Leads catalog requests who
      (.visiting walk walk.candidates.length state)
      (.finished walk (exhaustWalk walk (requests who).buffered.alone state
        ((requests who).buffered.alone.arrival walk.candidates.length).now)) := by
    apply (leads_visit walk.candidates.length state).trans
    unfold arriveBuffered
    rw [List.getElem?_eq_none (Nat.le_refl _)]
    exact .refl _
  have whole := leads_loop (fun _ _ state found => leads_candidate found state) ends
    walk.candidates 0 (WalkState.start walk health) (Nat.zero_le _) rfl
  revert whole
  cases Loop.enumerate (visitCandidate walk (requests who).buffered.alone) 0 walk.candidates
    (WalkState.start walk health) <;> exact id

theorem leads_arrive (position : Nat) (state : StreamState) :
    Leads catalog requests who (.arriving walk position state)
      (arriveStreaming walk (requests who).streamed.alone position state) := by
  apply Leads.move
  · intro health held
    rw [← held health]
    rfl
  · intro found found'
    rw [arriveStreaming_registry, arriveStreaming_registry]

theorem leads_dispatch (position : Nat) (candidate : ProviderCandidate) (state : StreamState) :
    Leads catalog requests who (.dispatching walk position candidate state)
      (onward (.arriving walk) walk position
        (callStreaming walk (requests who).streamed.alone position candidate state)) := by
  apply Leads.move
  · intro health held
    rw [← held health]
    show dispatchStreaming walk (requests who).streamed.alone position candidate state = _
    unfold dispatchStreaming
    cases callStreaming walk (requests who).streamed.alone position candidate state <;> rfl
  · intro found found'
    cases callStreaming walk (requests who).streamed.alone position candidate state <;> rfl

theorem leads_streamed {position : Nat} {candidate : ProviderCandidate}
    (found : walk.candidates[position]? = some candidate) (state : StreamState) :
    Leads catalog requests who (.arriving walk position state)
      (onward (.arriving walk) walk position
        (visitStreaming walk (requests who).streamed.alone position candidate state)) := by
  apply (leads_arrive position state).trans
  unfold arriveStreaming visitStreaming
  have lone : state.meet ((requests who).streamed.alone.arrival position).observed = state := rfl
  rw [found]
  dsimp only
  rw [lone]
  by_cases policy : policySkips state.byokFallbackArmed candidate = true
  · rw [if_pos policy, if_pos policy]
    exact .refl _
  · rw [if_neg policy, if_neg policy]
    by_cases gone : ((requests who).streamed.alone.arrival position).closed = true
    · rw [if_pos gone, if_pos gone]
      exact .refl _
    · rw [if_neg gone, if_neg gone]
      by_cases demoted : (state.attempts.health.shouldSkip
          ((requests who).streamed.alone.arrival position).now.instant candidate.definition &&
          (state.lastCandidate.isSome || position + 1 < walk.candidates.length)) = true
      · rw [if_pos demoted, if_pos demoted]
        exact .refl _
      · rw [if_neg demoted, if_neg demoted]
        exact leads_dispatch position candidate state

/-- A streaming walk left alone is `stream_to_channel`. -/
theorem leads_streamToChannel (health : ProviderHealth) :
    Leads catalog requests who (.arriving walk 0 (StreamState.start walk health))
      (.finished walk (streamToChannel walk (requests who).streamed.alone health)) := by
  unfold streamToChannel streamTo
  rw [List.take_length]
  have ends (state : StreamState) : Leads catalog requests who
      (.arriving walk walk.candidates.length state)
      (.finished walk (exhaustStream walk (requests who).streamed.alone state
        ((requests who).streamed.alone.arrival walk.candidates.length).now)) := by
    apply (leads_arrive walk.candidates.length state).trans
    unfold arriveStreaming
    rw [List.getElem?_eq_none (Nat.le_refl _)]
    exact .refl _
  have whole := leads_loop (fun _ _ state found => leads_streamed found state) ends
    walk.candidates 0 (StreamState.start walk health) (Nat.zero_le _) rfl
  revert whole
  cases Loop.enumerate (visitStreaming walk (requests who).streamed.alone) 0 walk.candidates
    (StreamState.start walk health) <;> exact id

/-! ## From the request to its answer -/

/-- What a request's walk comes to, left alone. -/
def Serving.walked (serving : Serving) (admitted : AdmittedRequest) (health : ProviderHealth) :
    Walked :=
  if serving.stream then streamToChannel (serving.walk admitted) serving.streamed.alone health
  else runNonStreaming (serving.walk admitted) serving.buffered.alone health

/-- Where a request ends, left alone. -/
def Serving.served (serving : Serving) (catalog : TierCatalog) (health : ProviderHealth) :
    Standing :=
  match (inference { serving.services with health } serving.key serving.request catalog).2 with
  | .error error => .refused error
  | .ok admitted => .finished (serving.walk admitted) (serving.walked admitted health)

/-- A request that is served alone is refused or walked as the pipeline and the walk by
    themselves say, and leaves the registry they leave. -/
theorem Process.served_alone {process : Process} (received : process.standing who = .received) :
    ∃ count,
      (process.run catalog requests (List.replicate count who)).standing who =
        ((requests who).served catalog process.health).on .empty ∧
      (process.run catalog requests (List.replicate count who)).health =
        ((requests who).served catalog process.health).registry process.health := by
  have admits : (requests who).move catalog process.health (process.standing who) =
      (requests who).chatCompletions catalog process.health := by
    rw [received]
    rfl
  have standing : (process.move catalog requests who).standing who = _ := move_standing_self
  have health : (process.move catalog requests who).health =
      ((requests who).move catalog process.health (process.standing who)).registry process.health :=
    rfl
  rw [admits] at standing health
  unfold Serving.chatCompletions at standing health
  unfold Serving.served Serving.walked
  cases opened : (inference { (requests who).services with health := process.health }
    (requests who).key (requests who).request catalog).2 with
  | error error =>
      rw [opened] at standing health
      exact ⟨1, standing, health⟩
  | ok admitted =>
      rw [opened] at standing health
      dsimp only at standing health ⊢
      by_cases streams : (requests who).stream = true
      · rw [if_pos streams] at standing health ⊢
        obtain ⟨count, ended, left⟩ :=
          leads_streamToChannel process.health _ ⟨standing, fun _ => health.symm⟩
        exact ⟨count + 1, ended, (left process.health).symm⟩
      · rw [if_neg streams] at standing health ⊢
        obtain ⟨count, ended, left⟩ :=
          leads_runNonStreaming process.health _ ⟨standing, fun _ => health.symm⟩
        exact ⟨count + 1, ended, (left process.health).symm⟩

/-- The third request, whose customer has no key of their own. -/
theorem Process.served_alone_house : ∃ served,
    served = (SharedRung.requests "haiku" SharedRung.answer 2).served SharedRung.catalog .empty ∧
      served.dispatches.length = 1 ∧ ∃ count, (Process.start.run SharedRung.catalog
        (SharedRung.requests "haiku" SharedRung.answer) (List.replicate count 2)).standing 2 =
          served.on .empty := by
  refine ⟨_, rfl, by decide +kernel, ?_⟩
  have fresh : Process.start.standing 2 = .received := rfl
  obtain ⟨count, ended, -⟩ := Process.served_alone fresh
  exact ⟨count, ended⟩

end ZeroRouter
