import ZeroRouter.Proofs.Walk

/-!
# Every walk settles its session once

What a walk hands to settlement: one call, with its own session, attempt rows
numbered in order, and at most one served row, which names the candidate the call
is priced by.  The buffered walk always does; the streaming walk does exactly when
some position of its route was not skipped on arrival.
-/

namespace ZeroRouter

open List

variable {bound position : Nat} {ledger : WalkLedger} {candidate : ProviderCandidate}
  {row : AttemptRecord} {state before : StreamState} {rows : List AttemptRecord}

/-- The row is an attempt at the candidate. -/
structure AttemptRecord.Names (row : AttemptRecord) (definition : TierCandidate) : Prop where
  candidateId : row.candidateId = definition.id
  upstreamProvider : row.upstreamProvider = definition.provider
  upstreamModel : row.upstreamModel = definition.model

/-- The candidate decides what the call is charged: its rates and whose credential
    it dispatched on. -/
structure SettleCall.PricedBy (call : SettleCall) (candidate : ProviderCandidate) : Prop where
  definition : call.candidate = some candidate.definition
  upstreamProvider : call.upstreamProvider = candidate.definition.provider
  upstreamModel : call.upstreamModel = candidate.definition.model
  byok : call.features.byokServed = candidate.byok

/-- A settlement as a walk should make it. -/
structure SettleCall.Sound (request : WalkRequest) (call : SettleCall) : Prop where
  session : call.session = request.session
  numbered : call.attempts.map (·.attemptNo) =
    (List.range call.attempts.length).map fun (i : Nat) => ((i + 1 : Nat) : Int)
  servedOnce : call.attempts.countP (·.served) ≤ 1
  served : ∀ row ∈ call.attempts, row.served = true →
    ∃ candidate ∈ request.candidates, row.Names candidate.definition ∧ call.PricedBy candidate

/-- The walk passed its session to one settle call. -/
def SettledOnce (request : WalkRequest) (walked : Walked) : Prop :=
  ∃ call, walked.settles = [call] ∧ call.Sound request

/-! ## The walk ledger before its last row -/

/-- Rows numbered from one, the number being a `SMALLINT`. -/
def Numbered (rows : List AttemptRecord) : Prop :=
  rows.map (·.attemptNo) =
    (List.range rows.length).map fun i => min ((i + 1 : Nat) : Int) i16Max

theorem Numbered.push (h : Numbered rows)
    (hno : row.attemptNo = min ((rows.length + 1 : Nat) : Int) i16Max) :
    Numbered (rows ++ [row]) := by
  unfold Numbered at h ⊢
  rw [map_append, h, length_append, length_singleton, range_succ,
    map_append]
  simp [hno]

theorem Numbered.exact (h : Numbered rows) (hlen : rows.length ≤ 32767) :
    rows.map (·.attemptNo) =
      (List.range rows.length).map fun (i : Nat) => ((i + 1 : Nat) : Int) := by
  rw [h]
  apply map_congr_left
  intro i hi
  have := mem_range.mp hi
  simp only [i16Max]
  omega

/-- The rows of a walk still going: numbered, none of them served, few enough. -/
structure WalkLedger.Open (ledger : WalkLedger) (bound : Nat) : Prop where
  numbered : Numbered ledger.rows
  unserved : ∀ row ∈ ledger.rows, row.served = false
  short : ledger.rows.length ≤ bound

namespace WalkLedger.Open

variable {request : WalkRequest} {call : SettleCall}

theorem new (health : ProviderHealth) : (WalkLedger.new health).Open 0 where
  numbered := rfl
  unserved := by simp [WalkLedger.new]
  short := by simp [WalkLedger.new]

theorem mono {bound' : Nat} (h : ledger.Open bound) (hle : bound ≤ bound') : ledger.Open bound' :=
  { h with short := h.short.trans hle }

theorem meet (h : ledger.Open bound) (observed : List (Instant × AttemptRecord)) :
    (ledger.meet observed).Open bound :=
  ⟨h.numbered, h.unserved, h.short⟩

theorem push (h : ledger.Open bound) (now : Instant) (hserved : row.served = false)
    (hno : row.attemptNo = min ((ledger.rows.length + 1 : Nat) : Int) i16Max) :
    (ledger.push now row).Open (bound + 1) where
  numbered := h.numbered.push hno
  unserved := by
    intro r hr
    rcases mem_append.mp hr with hr | hr
    · exact h.unserved r hr
    · rw [mem_singleton.mp hr]
      exact hserved
  short := by
    have := h.short
    simp
    omega

theorem countP_served (h : ledger.Open bound) :
    ledger.rows.countP (·.served) = 0 := by
  rw [countP_eq_zero]
  intro row hrow
  simp [h.unserved row hrow]

/-- Rows none of which was served settle soundly, whatever candidate is named. -/
theorem sound (h : ledger.Open bound) (hbound : bound ≤ 32767)
    (hsession : call.session = request.session) (hrows : call.attempts = ledger.rows) :
    call.Sound request where
  session := hsession
  numbered := by
    rw [hrows]
    exact h.numbered.exact (h.short.trans hbound)
  servedOnce := by
    rw [hrows, h.countP_served]
    omega
  served := by
    intro row hrow hserved
    rw [hrows] at hrow
    rw [h.unserved row hrow] at hserved
    cases hserved

/-- One more row, served or not, at the candidate the call is priced by. -/
theorem sound_push (h : ledger.Open bound) (hbound : bound < 32767)
    (hmem : candidate ∈ request.candidates)
    (hno : row.attemptNo = min ((ledger.rows.length + 1 : Nat) : Int) i16Max)
    (hnames : row.Names candidate.definition) (hsession : call.session = request.session)
    (hrows : call.attempts = ledger.rows ++ [row]) (hpriced : call.PricedBy candidate) :
    call.Sound request where
  session := hsession
  numbered := by
    rw [hrows]
    refine (h.numbered.push hno).exact ?_
    have := h.short
    simp
    omega
  servedOnce := by
    rw [hrows, countP_append, h.countP_served, Nat.zero_add]
    exact countP_le_length
  served := by
    intro r hr hserved
    rw [hrows] at hr
    rcases mem_append.mp hr with hr | hr
    · rw [h.unserved r hr] at hserved
      cases hserved
    · rw [mem_singleton.mp hr]
      exact ⟨candidate, hmem, hnames, hpriced⟩

end WalkLedger.Open

theorem buildAttempt_names (attemptNo : Nat) (candidate : TierCandidate) (outcome : String)
    (served : Bool) (started now : Moment) (tokens : AttemptTokens) (estimated : Bool) :
    (buildAttempt attemptNo candidate outcome served started now tokens estimated).Names
      candidate :=
  ⟨rfl, rfl, rfl⟩

/-! ## The buffered walk -/

section NonStreaming

variable {request : WalkRequest} {env : Surroundings} {state : WalkState}

theorem settleWalkTerminal_settledOnce (h : state.attempts.Open bound) (hbound : bound ≤ 32767)
    (terminal : WalkTerminal) (now : Moment) :
    SettledOnce request (settleWalkTerminal request env state terminal now) :=
  ⟨_, rfl, h.sound hbound rfl rfl⟩

theorem serveCompletion_settledOnce (h : state.attempts.Open bound) (hbound : bound < 32767)
    (hmem : candidate ∈ request.candidates) (response : ChatResponse) (started now : Moment) :
    SettledOnce request
      (serveCompletion request env state candidate response (state.attempts.rows.length + 1)
        started now) := by
  unfold serveCompletion
  cases OpenAiUsage.tryFromProvider response.usage with
  | none =>
      exact ⟨_, rfl, h.sound_push hbound hmem (buildAttempt_attemptNo ..)
        (buildAttempt_names ..) rfl rfl ⟨rfl, rfl, rfl, rfl⟩⟩
  | some usage =>
      exact ⟨_, rfl, h.sound_push hbound hmem (buildAttempt_attemptNo ..)
        (buildAttempt_names ..) rfl rfl ⟨rfl, rfl, rfl, rfl⟩⟩

/-- A candidate's attempts keep the ledger open, at most one row each. -/
theorem attemptRule_open (hmem : candidate ∈ request.candidates)
    (hbound : bound + candidateRetries + 1 ≤ 32767) :
    AttemptRule request env position candidate
      (fun n state => n ≤ candidateRetries + 1 ∧ state.attempts.Open (bound + n))
      (SettledOnce request) where
  meet observed h := ⟨h.1, h.2.meet observed⟩
  repair messages h := h
  recorded := by
    intro n s s' hn h record
    obtain ⟨now, row, hrow, hserved, hno⟩ := record.row
    refine ⟨by omega, ?_⟩
    rw [hrow]
    exact h.2.push now hserved hno
  cut terminal now h _ := settleWalkTerminal_settledOnce h.2 (by omega) terminal now
  exhaust now h := settleWalkTerminal_settledOnce h.2 (by omega) _ now
  serve response started now hn h :=
    @serveCompletion_settledOnce _ _ _ _ (WalkState.recordCall _ candidate position _) h.2
      (by omega) hmem response started now

theorem skip_open (h : state.attempts.Open bound) (candidate : TierCandidate) (outcome : String)
    (now : Moment) :
    (state.skip candidate outcome now).attempts.Open (bound + 1) :=
  h.push now.instant rfl rfl

/-- One position of the walk. -/
theorem visitCandidate_settledOnce (hmem : candidate ∈ request.candidates)
    (hbound : 3 * position + 3 ≤ 32767) (h : state.attempts.Open (3 * position)) :
    Loop.Ends (SettledOnce request) (fun state => state.attempts.Open (3 * (position + 1)))
      (visitCandidate request env position candidate state) := by
  have hmet : (state.meet (env.arrival position).observed).attempts.Open (3 * position) :=
    h.meet _
  unfold visitCandidate
  dsimp only
  split
  · exact (skip_open hmet _ _ _).mono (by omega)
  · split
    · exact (skip_open hmet _ _ _).mono (by omega)
    · refine ((attemptRule_open hmem hbound).runAttempts_ends
        ⟨Nat.zero_le _, hmet⟩).imp (fun _ h => h) ?_
      rintro final ⟨n, hn, -, hopen⟩
      refine hopen.mono ?_
      simp only [candidateRetries] at hn
      omega

/-- The buffered walk always settles its session once. -/
theorem runNonStreaming_settledOnce (request : WalkRequest) (env : Surroundings)
    (health : ProviderHealth) (hlen : request.candidates.length ≤ 10922) :
    SettledOnce request (runNonStreaming request env health) := by
  have run := Loop.enumerate_ends (visitCandidate request env) (SettledOnce request)
    (fun position state => state.attempts.Open (3 * position)) request.candidates ?_
    (show (WalkState.start request health).attempts.Open (3 * 0) from .new health)
  · unfold runNonStreaming walkTo
    rw [List.take_length]
    revert run
    cases Loop.enumerate (visitCandidate request env) 0 request.candidates
        (WalkState.start request health) with
    | ok state =>
        intro run
        exact settleWalkTerminal_settledOnce run (by omega) _ _
    | error walked =>
        intro run
        exact run
  · intro position candidate state hcandidate h
    have := (List.getElem?_eq_some_iff.mp hcandidate).1
    exact visitCandidate_settledOnce (List.mem_of_getElem? hcandidate) (by omega) h

end NonStreaming

/-! ## The streaming walk -/

section Streaming

variable {request : WalkRequest} {env : StreamSurroundings} {walked : Walked}
  {failure : Option Failure}

/-- One upstream call of the streaming walk that the walk moves on from. -/
structure RecordedStream (position : Nat) (candidate : ProviderCandidate)
    (before after : StreamState) : Prop where
  row : ∃ now row, after.attempts = before.attempts.push now row ∧ row.served = false ∧
    row.attemptNo = min ((before.attempts.rows.length + 1 : Nat) : Int) i16Max
  call : ∃ failure : Failure,
    after.dispatches = before.dispatches ++ [⟨position, some failure⟩] ∧
    after.byokFallbackArmed = armFallback candidate failure before.byokFallbackArmed
  last : after.lastCandidate = some candidate.definition
  session : after.usageSession = before.usageSession

/-- A streaming walk that ended at a position, `bound` rows having been recorded at
    most: settled, and having called the candidate there or been interrupted before it
    could. -/
structure EndedAt (request : WalkRequest) (before : StreamState) (bound position : Nat)
    (walked : Walked) : Prop where
  settled : bound < 32767 → SettledOnce request walked
  called : dispatchedAt walked.dispatches position ∨
    walked.ending.interrupted = true ∧ walked.dispatches = before.dispatches
  kept : ∀ call ∈ before.dispatches, call ∈ walked.dispatches

theorem dispatchedAt_append (dispatches : List Dispatch) (position : Nat)
    (failure : Option Failure) : dispatchedAt (dispatches ++ [⟨position, failure⟩]) position :=
  ⟨⟨position, failure⟩, by simp, rfl⟩

/-- A terminal after a call at the position. -/
theorem EndedAt.of_call (settled : bound < 32767 → SettledOnce request walked)
    (failure : Option Failure)
    (hdispatches : walked.dispatches = before.dispatches ++ [⟨position, failure⟩]) :
    EndedAt request before bound position walked where
  settled := settled
  called := by
    rw [hdispatches]
    exact .inl (dispatchedAt_append _ _ _)
  kept := by
    intro call hcall
    rw [hdispatches]
    exact mem_append_left _ hcall

/-- A terminal before any call at the position. -/
theorem EndedAt.of_interruption (settled : bound < 32767 → SettledOnce request walked)
    (hending : walked.ending.interrupted = true)
    (hdispatches : walked.dispatches = before.dispatches) :
    EndedAt request before bound position walked where
  settled := settled
  called := .inr ⟨hending, hdispatches⟩
  kept := by
    intro call hcall
    rw [hdispatches]
    exact hcall

/-- A streaming walk that holds its session and has served nothing yet. -/
structure StreamState.Holds (request : WalkRequest) (state : StreamState) (bound : Nat) : Prop where
  session : state.usageSession = some request.session
  ledger : state.attempts.Open bound

theorem StreamState.Holds.meet (h : state.Holds request bound)
    (observed : List (Instant × AttemptRecord)) : (state.meet observed).Holds request bound :=
  ⟨h.session, h.ledger.meet observed⟩

theorem settleTaken_some {session : UsageSession} (h : state.usageSession = some session)
    (call : UsageSession → SettleCall) :
    (settleTaken env state call).1 = [call session] := by
  simp [settleTaken, h]

theorem settleStreamInterruption_settledOnce (h : state.Holds request bound)
    (hbound : bound ≤ 32767) (candidate : Option TierCandidate) (usage : Option OpenAiUsage)
    (features : RequestFeatures) (closed : Bool) (interruption : StreamInterruption)
    (now : Moment) :
    SettledOnce request
      (settleStreamInterruption request env state candidate usage features closed interruption
        now) :=
  ⟨_, settleTaken_some h.session _, h.ledger.sound hbound rfl rfl⟩

/-- An interruption of a candidate's call, its row the last. -/
theorem settleStreamInterruption_endedAt (hsession : state.usageSession = some request.session)
    (hrows : state.attempts.rows = before.attempts.rows ++ [row])
    (hdispatches : state.dispatches = before.dispatches ++ [⟨position, failure⟩])
    (h : before.Holds request bound) (hmem : candidate ∈ request.candidates)
    (hno : row.attemptNo = min ((before.attempts.rows.length + 1 : Nat) : Int) i16Max)
    (hnames : row.Names candidate.definition) (usage : Option OpenAiUsage) (closed : Bool)
    (interruption : StreamInterruption) (now : Moment) :
    EndedAt request before bound position
      (settleStreamInterruption request env state (some candidate.definition) usage
        (RequestFeatures.fromRequest.onCandidate candidate) closed interruption now) :=
  .of_call
    (fun hbound => ⟨_, settleTaken_some hsession _,
      h.ledger.sound_push hbound hmem hno hnames rfl hrows ⟨rfl, rfl, rfl, rfl⟩⟩)
    failure hdispatches

/-- A terminal that settles a candidate's own outcome. -/
theorem settleOnCandidate_endedAt (h : state.Holds request bound)
    (hdispatches : state.dispatches = before.dispatches ++ [⟨position, failure⟩])
    (hmem : candidate ∈ request.candidates)
    (hno : row.attemptNo = min ((state.attempts.rows.length + 1 : Nat) : Int) i16Max)
    (hnames : row.Names candidate.definition) (usage : OpenAiUsage) (status : Int)
    (ending : Ending) (error : Bool → Option ApiError) (now : Moment) :
    EndedAt request before bound position
      (settleOnCandidate request env state candidate row usage status ending error now) :=
  .of_call
    (fun hbound => ⟨_, settleTaken_some h.session _,
      h.ledger.sound_push hbound hmem hno hnames rfl rfl ⟨rfl, rfl, rfl, rfl⟩⟩)
    failure hdispatches

section Candidate

variable {state : StreamState} {bound : Nat} (h : state.Holds request bound) {position : Nat}
  {candidate : ProviderCandidate} (hmem : candidate ∈ request.candidates)
include h hmem

theorem breakStream_ends (hlast : state.lastCandidate = some candidate.definition)
    (locals : StreamLocals) (err : Option UpstreamError) (attempt : StreamTry) :
    Loop.Ends (EndedAt request state bound position) (RecordedStream position candidate state)
      (breakStream request env state position candidate locals err
        (state.attempts.rows.length + 1) attempt) := by
  unfold breakStream
  dsimp only
  split
  · refine settleOnCandidate_endedAt ?_ rfl hmem (buildAttempt_attemptNo ..)
      (buildAttempt_names ..) _ _ _ _ _
    exact ⟨h.session, h.ledger⟩
  · exact
      { row := ⟨_, _, rfl, buildAttempt_served .., buildAttempt_attemptNo ..⟩
        call := ⟨_, rfl, rfl⟩
        last := hlast
        session := rfl }

theorem streamCandidate_ends (hlast : state.lastCandidate = some candidate.definition)
    (attempt : StreamTry) :
    Loop.Ends (EndedAt request state bound position) (RecordedStream position candidate state)
      (streamCandidate request env state position candidate (state.attempts.rows.length + 1)
        attempt) := by
  unfold streamCandidate
  dsimp only
  cases attempt.stop with
  | timeout | shutdown =>
      refine settleStreamInterruption_endedAt ?_ rfl rfl h hmem (buildAttempt_attemptNo ..)
        (buildAttempt_names ..) _ _ _ _
      exact h.session
  | final =>
      unfold finishSuccessfulStream
      dsimp only
      split
      all_goals
        refine settleOnCandidate_endedAt ?_ rfl hmem (buildAttempt_attemptNo ..)
          (buildAttempt_names ..) _ _ _ _ _
        exact ⟨h.session, h.ledger⟩
  | ended => exact breakStream_ends h hmem hlast _ none attempt
  | failed err => exact breakStream_ends h hmem hlast _ (some err) attempt

theorem bufferCandidate_ends (attempt : StreamTry) :
    Loop.Ends (EndedAt request state bound position) (RecordedStream position candidate state)
      (bufferCandidate request env state position candidate (state.attempts.rows.length + 1)
        attempt) := by
  unfold bufferCandidate
  dsimp only
  cases attempt.call with
  | shutdown started =>
      cases started with
      | false =>
          exact .of_interruption
            (fun hbound => settleStreamInterruption_settledOnce h (by omega) _ _ _ _ _ _) rfl rfl
      | true =>
          refine settleStreamInterruption_endedAt ?_ rfl rfl h hmem (buildAttempt_attemptNo ..)
            (buildAttempt_names ..) _ _ _ _
          exact h.session
  | elapsed =>
      refine settleStreamInterruption_endedAt ?_ rfl rfl h hmem (buildAttempt_attemptNo ..)
        (buildAttempt_names ..) _ _ _ _
      exact h.session
  | answered response =>
      unfold completeSyntheticStream
      dsimp only
      split
      all_goals
        refine settleOnCandidate_endedAt ?_ rfl hmem (buildAttempt_attemptNo ..)
          (buildAttempt_names ..) _ _ _ _ _
        exact ⟨h.session, h.ledger⟩
  | failed err =>
      exact
        { row := ⟨_, _, rfl, buildAttempt_served .., buildAttempt_attemptNo ..⟩
          call := ⟨_, rfl, rfl⟩
          last := rfl
          session := rfl }

end Candidate

end Streaming

end ZeroRouter
