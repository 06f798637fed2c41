import ZeroRouter.Proofs.Skips

/-!
# The buffered walk is bounded

The calls of a walk, in order: how many there are for a rung, that a rung once left is not called
again, and that the prompt is repaired once.  Over them, what the repair keeps of a conversation.
-/

namespace ZeroRouter

open List

variable {state : WalkState} {index position made : Nat} {failure : Option Failure} {rungs : Nat}
  {dispatches : List Dispatch} {after : WalkState}

/-! ## Prompt repair -/

/-- The messages the repair never drops. -/
def systemMessages (messages : List ChatMessage) : List ChatMessage :=
  messages.filter (·.role = "system")

/-- The messages it may drop. -/
def otherMessages (messages : List ChatMessage) : List ChatMessage :=
  messages.filter (·.role ≠ "system")

theorem dropNonSystem_sublist (count : Nat) (messages : List ChatMessage) :
    (dropNonSystem count messages).Sublist messages := by
  induction messages generalizing count with
  | nil => cases count <;> exact .slnil
  | cons message rest ih =>
      cases count with
      | zero => exact List.Sublist.refl _
      | succ count =>
          rw [dropNonSystem]
          split
          · exact (ih (count + 1)).cons₂ message
          · exact (ih count).cons message

theorem dropNonSystem_system (count : Nat) (messages : List ChatMessage) :
    systemMessages (dropNonSystem count messages) = systemMessages messages := by
  induction messages generalizing count with
  | nil => cases count <;> rfl
  | cons message rest ih =>
      cases count with
      | zero => rfl
      | succ count =>
          unfold systemMessages at ih ⊢
          rw [dropNonSystem]
          split
          · next system => rw [filter_cons, filter_cons, ih (count + 1)]
          · next other => rw [ih count, filter_cons_of_neg (by simpa using other)]

theorem dropNonSystem_other (count : Nat) (messages : List ChatMessage) :
    otherMessages (dropNonSystem count messages) = (otherMessages messages).drop count := by
  induction messages generalizing count with
  | nil => cases count <;> rfl
  | cons message rest ih =>
      cases count with
      | zero => rfl
      | succ count =>
          unfold otherMessages at ih ⊢
          rw [dropNonSystem]
          split
          · next system =>
              rw [filter_cons_of_neg (by simpa using system), ih (count + 1),
                filter_cons_of_neg (by simpa using system)]
          · next other =>
              rw [ih count, filter_cons_of_pos (by simpa using other), drop_succ_cons]

/-- What is kept of a list's end does not depend on what was dropped of its front. -/
theorem getLast?_drop {α : Type} {items : List α} {count : Nat} (h : count < items.length) :
    (items.drop count).getLast? = items.getLast? := by
  rw [getLast?_eq_getElem?, getLast?_eq_getElem?, length_drop,
    getElem?_drop]
  congr 1
  omega

theorem otherMessages_length (messages : List ChatMessage) :
    (otherMessages messages).length = messages.countP (·.role ≠ "system") :=
  (countP_eq_length_filter ..).symm

theorem systemMessages_add_otherMessages (messages : List ChatMessage) :
    messages.length = (systemMessages messages).length + (otherMessages messages).length := by
  unfold systemMessages otherMessages
  rw [length_eq_length_filter_add (fun message : ChatMessage => message.role = "system")]
  simp

/-- What `truncate_for_context` keeps. -/
structure Repairs (before : List ChatMessage) (repair : Nat × List ChatMessage) : Prop where
  order : repair.2.Sublist before
  system : systemMessages repair.2 = systemMessages before
  last : (otherMessages repair.2).getLast? = (otherMessages before).getLast?
  shorter : repair.2.length + repair.1 = before.length
  nothing : repair.1 = 0 ↔ (otherMessages before).length ≤ 1

theorem truncateForContext_repairs (messages : List ChatMessage) :
    Repairs messages (truncateForContext messages) := by
  have counted := otherMessages_length messages
  unfold truncateForContext
  dsimp only
  split
  · next few =>
      exact ⟨List.Sublist.refl _, rfl, rfl, rfl, iff_of_true rfl (by omega)⟩
  · next many =>
      rw [← counted] at many ⊢
      have split := systemMessages_add_otherMessages messages
      have kept := systemMessages_add_otherMessages
        (dropNonSystem ((otherMessages messages).length / 2) messages)
      rw [dropNonSystem_system, dropNonSystem_other, length_drop] at kept
      refine ⟨dropNonSystem_sublist _ _, dropNonSystem_system _ _, ?_, ?_, ?_⟩
      · rw [dropNonSystem_other]
        exact getLast?_drop (by omega)
      · dsimp only
        omega
      · dsimp only
        omega

/-! ## The calls of a walk -/

/-- The call failed in a way its rung is abandoned for, on a route of so many rungs. -/
def Dispatch.Stops (rungs : Nat) (call : Dispatch) : Prop :=
  ∃ kind, call.failure = some (.chat kind) ∧
    (kind.isNonRetryable = true ∨ kind.isRateLimited = true ∧ 1 < rungs)

/-- The call failed on the prompt's length, and the walk had not repaired it yet. -/
def Dispatch.repairs (call : Dispatch) : Bool :=
  match call.failure with
  | some (.chat (.contextWindow _)) => true
  | _ => false

/-- A later call is for the same rung or a later one, and not for one that was abandoned. -/
def Follows (rungs : Nat) (earlier later : Dispatch) : Prop :=
  earlier.position ≤ later.position ∧
    (earlier.Stops rungs → earlier.position ≠ later.position)

/-- The calls made up to a rung, so many of them for it. -/
structure Calls (rungs position made : Nat) (dispatches : List Dispatch) : Prop where
  placed : ∀ call ∈ dispatches, call.position ≤ position
  here : dispatches.countP (·.position = position) ≤ made
  each : ∀ rung, dispatches.countP (·.position = rung) ≤ candidateRetries + 1
  length : dispatches.length ≤ (candidateRetries + 1) * position + made
  ordered : dispatches.Pairwise (Follows rungs)

/-- The rung the walk is at has not been abandoned. -/
def Going (rungs position : Nat) (dispatches : List Dispatch) : Prop :=
  ∀ call ∈ dispatches, call.position = position → ¬ call.Stops rungs

section Calls

variable {rungs position made : Nat} {dispatches : List Dispatch}

theorem Calls.nil : Calls rungs 0 0 [] where
  placed call mem := by cases mem
  here := le_rfl
  each _ := Nat.zero_le _
  length := le_rfl
  ordered := .nil

/-- One more call for a rung that was not abandoned. -/
theorem Calls.call (calls : Calls rungs position made dispatches)
    (going : Going rungs position dispatches) (few : made ≤ candidateRetries)
    (failure : Option Failure) :
    Calls rungs position (made + 1) (dispatches ++ [⟨position, failure⟩]) where
  placed := by
    intro call mem
    rcases mem_append.mp mem with mem | mem
    · exact calls.placed call mem
    · rw [mem_singleton.mp mem]
  here := by
    rw [countP_append]
    have one : [(⟨position, failure⟩ : Dispatch)].countP (·.position = position) ≤ 1 :=
      countP_le_length
    have before := calls.here
    omega
  each := by
    intro rung
    rw [countP_append]
    by_cases same : position = rung
    · subst same
      have one : [(⟨position, failure⟩ : Dispatch)].countP (·.position = position) ≤ 1 :=
        countP_le_length
      have before := calls.here
      omega
    · have none : [(⟨position, failure⟩ : Dispatch)].countP (·.position = rung) = 0 := by
        simp [same]
      have before := calls.each rung
      omega
  length := by
    have before := calls.length
    simp only [length_append, length_singleton]
    omega
  ordered := by
    refine pairwise_append.mpr ⟨calls.ordered, pairwise_singleton _ _, ?_⟩
    intro earlier mem later mem'
    rw [mem_singleton.mp mem']
    exact ⟨calls.placed earlier mem, fun stops same => going earlier mem same stops⟩

/-- The walk moves on to the next rung. -/
theorem Calls.next (calls : Calls rungs position made dispatches)
    (few : made ≤ candidateRetries + 1) :
    Calls rungs (position + 1) 0 dispatches ∧ Going rungs (position + 1) dispatches := by
  have beyond : ∀ call ∈ dispatches, call.position ≠ position + 1 := by
    intro call mem same
    have placed := calls.placed call mem
    omega
  constructor
  · constructor
    · intro call mem
      exact (calls.placed call mem).trans (Nat.le_succ _)
    · rw [Nat.le_zero, countP_eq_zero]
      intro call mem
      simpa using beyond call mem
    · exact calls.each
    · have before := calls.length
      rw [Nat.mul_add, Nat.mul_one]
      omega
    · exact calls.ordered
  · intro call mem same
    exact absurd same (beyond call mem)

theorem Going.call (going : Going rungs position dispatches)
    (goes : ¬ Dispatch.Stops rungs ⟨position, failure⟩) :
    Going rungs position (dispatches ++ [⟨position, failure⟩]) := by
  intro call mem same
  rcases mem_append.mp mem with mem | mem
  · exact going call mem same
  · rw [mem_singleton.mp mem]
    exact goes

end Calls

/-! ## One attempt -/

/-- The prompt is the request's, or its one repair, and a call failed on its length exactly if it is
    the repair. -/
structure WalkState.Prompted (request : WalkRequest) (state : WalkState) : Prop where
  prompt : state.effectiveMessages =
    if state.contextTruncated then (truncateForContext request.messages).2 else request.messages
  repairs : state.dispatches.countP Dispatch.repairs = state.contextTruncated.toNat

/-- A walk between two attempts at a rung. -/
structure WalkState.InRung (request : WalkRequest) (position made : Nat) (state : WalkState) :
    Prop where
  calls : Calls request.candidates.length position made state.dispatches
  going : Going request.candidates.length position state.dispatches
  prompted : state.Prompted request

/-- A walk that is done with a rung. -/
structure WalkState.LeftRung (request : WalkRequest) (position : Nat) (state : WalkState) :
    Prop where
  calls : ∃ made ≤ candidateRetries + 1,
    Calls request.candidates.length position made state.dispatches
  prompted : state.Prompted request

/-- The calls of a walk, whenever it ended. -/
structure Bounded (rungs : Nat) (dispatches : List Dispatch) : Prop where
  each : ∀ rung, dispatches.countP (·.position = rung) ≤ candidateRetries + 1
  length : dispatches.length ≤ (candidateRetries + 1) * rungs
  ordered : dispatches.Pairwise (Follows rungs)
  repairs : dispatches.countP Dispatch.repairs ≤ 1

theorem Calls.bounded (calls : Calls rungs position made dispatches)
    (within : (candidateRetries + 1) * position + made ≤ (candidateRetries + 1) * rungs)
    (repairs : dispatches.countP Dispatch.repairs ≤ 1) : Bounded rungs dispatches :=
  ⟨calls.each, calls.length.trans within, calls.ordered, repairs⟩

theorem Calls.bounded_in (calls : Calls rungs position made dispatches)
    (within : position < rungs) (few : made ≤ candidateRetries + 1)
    (repairs : dispatches.countP Dispatch.repairs ≤ 1) :
    Bounded rungs dispatches := by
  refine calls.bounded ?_ repairs
  have most := Nat.mul_le_mul_left (candidateRetries + 1) (Nat.succ_le_of_lt within)
  rw [Nat.mul_succ] at most
  omega

theorem WalkState.Prompted.repairs_le {request : WalkRequest} (h : state.Prompted request) :
    state.dispatches.countP Dispatch.repairs ≤ 1 := by
  rw [h.repairs]
  exact Bool.toNat_le _

/-- A call that asks for no repair leaves the prompt as it was. -/
theorem WalkState.Prompted.call {request : WalkRequest} (h : state.Prompted request)
    {call : Dispatch} (plain : call.repairs = false)
    (dispatches : after.dispatches = state.dispatches ++ [call])
    (messages : after.effectiveMessages = state.effectiveMessages)
    (truncated : after.contextTruncated = state.contextTruncated) : after.Prompted request where
  prompt := by
    rw [messages, truncated]
    exact h.prompt
  repairs := by
    rw [dispatches, truncated, countP_append, h.repairs, countP_singleton, if_neg]
    · rfl
    · rw [plain]
      exact Bool.false_ne_true

section Walk

variable {request : WalkRequest} {env : Surroundings} {position : Nat}
  {candidate : ProviderCandidate}

/-- What the calls of a walk are when it is left inside a rung. -/
abbrev LeavesRung (request : WalkRequest) (env : Surroundings) (position : Nat) :
    RungExit → Prop :=
  RungExit.Meets request env (WalkState.LeftRung request position) fun walked =>
    Bounded request.candidates.length walked.dispatches

theorem WalkState.InRung.left (h : state.InRung request position made)
    (few : made ≤ candidateRetries + 1) :
    state.LeftRung request position :=
  ⟨⟨made, few, h.calls⟩, h.prompted⟩

/-- A plain call, whatever it came to, does not take the walk out of the rung. -/
theorem WalkState.InRung.call (h : state.InRung request position index)
    (few : index ≤ candidateRetries)
    (goes : ¬ Dispatch.Stops request.candidates.length ⟨position, failure⟩)
    (plain : Dispatch.repairs ⟨position, failure⟩ = false)
    (dispatches : after.dispatches = state.dispatches ++ [⟨position, failure⟩])
    (messages : after.effectiveMessages = state.effectiveMessages)
    (truncated : after.contextTruncated = state.contextTruncated) :
    after.InRung request position (index + 1) where
  calls := by
    rw [dispatches]
    exact h.calls.call h.going few failure
  going := by
    rw [dispatches]
    exact h.going.call goes
  prompted := h.prompted.call plain dispatches messages truncated

theorem backOff_bounded (within : position < request.candidates.length)
    (few : index ≤ candidateRetries) (h : state.InRung request position (index + 1))
    (backoffMs wait : Nat) (attempt : Try) :
    Loop.Ends (LeavesRung request env position)
      (fun rung => rung.walk.InRung request position (index + 1))
      (backOff request env state backoffMs wait attempt) := by
  unfold backOff
  split
  · exact h
  · exact h.calls.bounded_in within (by omega) h.prompted.repairs_le

/-- A failed attempt: the repair is made once, an abandoned rung is left at once. -/
theorem afterFailure_bounded {before : WalkState} (within : position < request.candidates.length)
    (few : index ≤ candidateRetries) (h : before.InRung request position index)
    (err : UpstreamError) (row : AttemptRecord) (now : Moment) (backoffMs : Nat) (attempt : Try) :
    Loop.Ends (LeavesRung request env position)
      (fun rung => rung.walk.InRung request position (index + 1))
      (afterFailure request env
        (before.recordFailure candidate (classify err before.contextTruncated) err row position now)
        (classify err before.contextTruncated) err backoffMs index attempt) := by
  have called := h.calls.call h.going few
  have prompted : ∀ kind, Dispatch.repairs ⟨position, some (.chat kind)⟩ = false →
      (before.recordFailure candidate kind err row position now).Prompted request :=
    fun kind plain => h.prompted.call plain rfl rfl rfl
  have inRung : ∀ kind, Dispatch.repairs ⟨position, some (.chat kind)⟩ = false →
      ¬ kind.isNonRetryable = true →
      ¬ (kind.isRateLimited = true ∧ 1 < request.candidates.length) →
      (before.recordFailure candidate kind err row position now).InRung request position
        (index + 1) := by
    intro kind plain goes stays
    refine h.call few ?_ plain rfl rfl rfl
    rintro ⟨_, ⟨⟩, stops | stops⟩
    · exact goes stops
    · exact stays stops
  generalize classified : classify err before.contextTruncated = kind
  unfold afterFailure
  cases kind with
  | contextWindow rateLimited =>
      have fresh : before.contextTruncated = false := by
        rcases Bool.eq_false_or_eq_true before.contextTruncated with spent | fresh
        · rw [spent] at classified
          exact absurd classified (classify_truncated err rateLimited)
        · exact fresh
      have prompt := h.prompted.prompt
      have none := h.prompted.repairs
      rw [fresh] at prompt none
      have once : ((before.recordFailure candidate (.contextWindow rateLimited) err row position
          now).dispatches.countP Dispatch.repairs) = 1 := by
        simp only [WalkState.recordFailure, countP_append, none]
        rfl
      dsimp only
      split
      · next dropped =>
          constructor
          · exact called _
          · refine h.going.call ?_
            rintro ⟨kind, failed, stops⟩
            cases failed
            rcases stops with stops | ⟨stops, -⟩ <;> cases stops
          · constructor
            · simp only [WalkState.recordFailure, prompt, Bool.false_eq_true, if_false, if_true]
            · exact once
      · exact (called _).bounded_in within (by omega) once.le
  | retryable | rateLimited | rateLimitedNonRetryable | nonRetryable | retentionAttestation =>
      dsimp only
      split
      · exact ⟨⟨index + 1, by omega, called _⟩, prompted _ rfl⟩
      · next goes =>
          split
          · exact ⟨⟨index + 1, by omega, called _⟩, prompted _ rfl⟩
          · next stays =>
              split
              · exact backOff_bounded within few (inRung _ rfl goes stays) _ _ attempt
              · exact inRung _ rfl goes stays

/-- One pass of the attempt loop. -/
theorem attemptCandidate_bounded (within : position < request.candidates.length)
    (few : index ≤ candidateRetries) {rung : RungState}
    (h : rung.walk.InRung request position index) :
    Loop.Ends (LeavesRung request env position)
      (fun rung => rung.walk.InRung request position (index + 1))
      (attemptCandidate request env position candidate index () rung) := by
  have met : (rung.walk.meet (env.attempt position index).observed).InRung request position index :=
    ⟨h.calls, h.going, h.prompted.prompt, h.prompted.repairs⟩
  unfold attemptCandidate
  dsimp only
  generalize rung.walk.meet (env.attempt position index).observed = state at met ⊢
  generalize env.attempt position index = attempt
  have quiet : ¬ Dispatch.Stops request.candidates.length ⟨position, none⟩ := by
    rintro ⟨_, failed, -⟩
    cases failed
  have called : ∀ rows, (state.recordCall candidate position rows).InRung request position
      (index + 1) :=
    fun rows => met.call few quiet rfl rfl rfl rfl
  have ended : ∀ rows, Bounded request.candidates.length
      (state.recordCall candidate position rows).dispatches :=
    fun rows => (called rows).calls.bounded_in within (by omega) (called rows).prompted.repairs_le
  have stopped : Bounded request.candidates.length state.dispatches :=
    met.calls.bounded_in within (by omega) met.prompted.repairs_le
  cases remainingUpstreamTime env.started attempt.start with
  | none => exact stopped
  | some remaining =>
      cases attempt.call with
      | shutdown started =>
          cases started with
          | false => exact stopped
          | true => exact ended state.attempts
      | elapsed => exact ended state.attempts
      | answered response =>
          dsimp only
          split
          · exact backOff_bounded within few (called _) _ _ attempt
          · unfold serveCompletion
            cases OpenAiUsage.tryFromProvider response.usage with
            | none => exact ended state.attempts
            | some usage => exact ended state.attempts
      | failed err => exact afterFailure_bounded within few met err _ _ _ attempt

/-! ## The walk -/

/-- The walk inside a rung, before one of its attempts. -/
def rungTo (request : WalkRequest) (env : Surroundings) (position : Nat)
    (candidate : ProviderCandidate) (state : WalkState) (index : Nat) :
    Except RungExit RungState :=
  Loop.enumerate (attemptCandidate request env position candidate) 0 (List.replicate index ())
    { walk := state, backoffMs := candidateBackoffMs }

theorem rungTo_bounded (within : position < request.candidates.length)
    (h : state.InRung request position 0) (few : index ≤ candidateRetries + 1) :
    Loop.Ends (LeavesRung request env position)
      (fun rung => rung.walk.InRung request position index)
      (rungTo request env position candidate state index) := by
  have run := Loop.enumerate_ends (attemptCandidate request env position candidate)
    (LeavesRung request env position)
    (fun made (rung : RungState) => rung.walk.InRung request position made)
    (List.replicate index ()) ?_
    (show (⟨state, candidateBackoffMs⟩ : RungState).walk.InRung request position 0 from h)
  · rw [List.length_replicate] at run
    exact run
  · intro made x rung hx keep
    have early := (List.getElem?_eq_some_iff.mp hx).1
    rw [List.length_replicate] at early
    exact attemptCandidate_bounded within (by omega) keep

theorem runAttempts_bounded (within : position < request.candidates.length)
    (h : state.InRung request position 0) :
    Loop.Ends (fun walked => Bounded request.candidates.length walked.dispatches)
      (WalkState.LeftRung request position)
      (runAttempts request env position candidate state) := by
  have run : Loop.Ends (LeavesRung request env position)
      (fun rung => rung.walk.InRung request position (candidateRetries + 1))
      (rungTo request env position candidate state (candidateRetries + 1)) :=
    rungTo_bounded within h le_rfl
  unfold rungTo at run
  unfold runAttempts
  revert run
  cases Loop.enumerate (attemptCandidate request env position candidate) 0
      (List.replicate (candidateRetries + 1) ())
      { walk := state, backoffMs := candidateBackoffMs } with
  | ok rung =>
      intro run
      exact run.left le_rfl
  | error exit =>
      intro run
      cases exit with
      | nextCandidate state => exact run
      | leaveWalk state now => exact run
      | done walked => exact run

theorem WalkState.LeftRung.next (h : state.LeftRung request position) :
    state.InRung request (position + 1) 0 := by
  obtain ⟨made, few, calls⟩ := h.calls
  obtain ⟨calls, going⟩ := calls.next few
  exact ⟨calls, going, h.prompted⟩

theorem visitCandidate_bounded (within : position < request.candidates.length)
    (h : state.InRung request position 0) :
    Loop.Ends (fun walked => Bounded request.candidates.length walked.dispatches)
      (fun state => state.InRung request (position + 1) 0)
      (visitCandidate request env position candidate state) := by
  have met : (state.meet (env.arrival position).observed).InRung request position 0 :=
    ⟨h.calls, h.going, h.prompted.prompt, h.prompted.repairs⟩
  have passed := (met.left (Nat.zero_le _)).next
  unfold visitCandidate
  dsimp only
  split
  · exact ⟨passed.calls, passed.going, passed.prompted.prompt, passed.prompted.repairs⟩
  · split
    · exact ⟨passed.calls, passed.going, passed.prompted.prompt, passed.prompted.repairs⟩
    · exact (runAttempts_bounded within met).imp (fun _ h => h) fun _ left => left.next

theorem start_inRung (request : WalkRequest) (health : ProviderHealth) :
    (WalkState.start request health).InRung request 0 0 where
  calls := Calls.nil
  going call mem := by cases mem
  prompted := ⟨rfl, rfl⟩

theorem walkTo_bounded (request : WalkRequest) (env : Surroundings) (health : ProviderHealth)
    (within : position ≤ request.candidates.length) :
    Loop.Ends (fun walked => Bounded request.candidates.length walked.dispatches)
      (fun state => state.InRung request position 0)
      (walkTo request env health position) := by
  have run := Loop.enumerate_ends (visitCandidate request env)
    (fun walked : Walked => Bounded request.candidates.length walked.dispatches)
    (fun position (state : WalkState) => state.InRung request position 0)
    (request.candidates.take position) ?_ (start_inRung request health)
  · rw [List.length_take_of_le within] at run
    exact run
  · intro index candidate state hx keep
    have early := (List.getElem?_eq_some_iff.mp hx).1
    rw [List.length_take_of_le within] at early
    exact visitCandidate_bounded (by omega) keep

theorem runNonStreaming_bounded (request : WalkRequest) (env : Surroundings)
    (health : ProviderHealth) :
    Bounded request.candidates.length (runNonStreaming request env health).dispatches := by
  have run := walkTo_bounded request env health (le_refl request.candidates.length)
  unfold runNonStreaming
  revert run
  cases walkTo request env health request.candidates.length with
  | error walked => exact fun run => run
  | ok state =>
      intro run
      exact run.calls.bounded le_rfl run.prompted.repairs_le

end Walk

/-- Over every route and every sequence of outcomes: at most three calls for a rung and so three for
    each rung of the route, in the order of the rungs, none after a failure its rung is abandoned
    for; at most one failure met with a repair, and a prompt that is the request's own or its one
    repair wherever the walk stands; and what a repair keeps. -/
theorem buffered_walk_bounded (request : WalkRequest) (env : Surroundings)
    (health : ProviderHealth) :
    (∀ rung, (runNonStreaming request env health).dispatches.countP (·.position = rung) ≤ 3) ∧
    (runNonStreaming request env health).dispatches.length ≤ 3 * request.candidates.length ∧
    (runNonStreaming request env health).dispatches.Pairwise (Follows request.candidates.length) ∧
    (runNonStreaming request env health).dispatches.countP Dispatch.repairs ≤ 1 ∧
    (∀ position state, position ≤ request.candidates.length →
      walkTo request env health position = .ok state → state.Prompted request ∧
        ∀ candidate, request.candidates[position]? = some candidate →
          ∀ index ≤ 3, ∀ rung,
            rungTo request env position candidate (state.meet (env.arrival position).observed)
              index = .ok rung → rung.walk.Prompted request) ∧
    ∀ messages, Repairs messages (truncateForContext messages) := by
  have bounded := runNonStreaming_bounded request env health
  refine ⟨bounded.each, bounded.length, bounded.ordered, bounded.repairs, ?_,
    truncateForContext_repairs⟩
  intro position state within arrives
  have arrived := walkTo_bounded request env health within
  rw [arrives] at arrived
  refine ⟨arrived.prompted, ?_⟩
  intro candidate at_position index few rung reached
  have here := (List.getElem?_eq_some_iff.mp at_position).1
  have met : (state.meet (env.arrival position).observed).InRung request position 0 :=
    ⟨arrived.calls, arrived.going, arrived.prompted.prompt, arrived.prompted.repairs⟩
  have run : Loop.Ends (LeavesRung request env position)
      (fun rung => rung.walk.InRung request position index)
      (rungTo request env position candidate (state.meet (env.arrival position).observed) index) :=
    rungTo_bounded here met few
  rw [reached] at run
  exact run.prompted

namespace LongPrompt

/-- A rate limit whose text also names the prompt's length. -/
def err : UpstreamError :=
  ⟨none, "HTTP 429 Too Many Requests: token limit exceeded", none, none⟩

def request : WalkRequest :=
  { DemotedTwin.request with
    messages := [⟨"user", "hello"⟩, ⟨"user", "and again"⟩]
    candidates :=
      [⟨DemotedTwin.candidate, DemotedTwin.client "house", false, none⟩,
        ⟨{ DemotedTwin.candidate with id := "haiku", model := "haiku" },
          DemotedTwin.client "house", false, none⟩] }

/-- The first attempt at a rung fails, the next is answered. -/
def env : Surroundings :=
  { DemotedTwin.env with
    attempt := fun position index =>
      if index = 0 then
        ⟨DemotedTwin.start, .failed err, [], DemotedTwin.start, fun _ => true⟩
      else DemotedTwin.env.attempt position index }

end LongPrompt

/-- A rate-limited rung of two is called again, with the prompt repaired. -/
theorem rateLimited_rung_called_again :
    LongPrompt.err.isRateLimited = true ∧
      FailureClass.outcome (classify LongPrompt.err false) = "rate_limited" ∧
      1 < LongPrompt.request.candidates.length ∧
      (runNonStreaming LongPrompt.request LongPrompt.env .empty).dispatches =
        [⟨0, some (.chat (classify LongPrompt.err false))⟩, ⟨0, none⟩] := by
  decide +kernel

end ZeroRouter
