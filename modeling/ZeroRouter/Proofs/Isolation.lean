import ZeroRouter.Proofs.Margin
import ZeroRouter.Proofs.Process

/-!
# What one customer's credential can do to another's route

The registry is the only thing the requests of a process share, and a request reads it
at the rungs of its own route only.  Two runs that differ in what came of one customer's
calls on their own credential are the same to every other customer as long as those
calls leave the rungs of the others' routes as they found them; they need not, because
the registry is keyed by provider and model, and a rung dialled with the customer's
credential is the house's rung under that key.
-/

namespace ZeroRouter

/-! ## Two runs -/

section Apart

variable (catalog : TierCatalog) (userId : Uuid) (requests requests' : Nat → Serving)

/-- Two runs of the process, the first over `requests` and the second over `requests'`,
    that agree on all but what came of `userId`'s calls on their own credential.  The
    requests of the others move alike in both, and what `userId`'s other moves record
    is recorded in both; the calls on the credential are free in either, as long as each
    of them meets `meets`. -/
inductive Apart (meets : Process → Process → Prop) : Process → Process → Prop
  | start : Apart meets .start .start
  | other {p q : Process} (who : Nat) : Apart meets p q → (requests who).userId ≠ userId →
      Apart meets (p.move catalog requests who) (q.move catalog requests' who)
  | own {p q : Process} (who who' : Nat) (rows : List (Instant × AttemptRecord)) :
      Apart meets p q → (requests who).userId = userId → (requests' who').userId = userId →
      ¬ p.OnByok requests userId who → ¬ q.OnByok requests' userId who' →
      p.Records catalog requests who rows → q.Records catalog requests' who' rows →
      Apart meets (p.move catalog requests who) (q.move catalog requests' who')
  | quiet {p q : Process} (who : Nat) : Apart meets p q → (requests who).userId = userId →
      ¬ p.OnByok requests userId who → p.Records catalog requests who [] →
      Apart meets (p.move catalog requests who) q
  | quiet' {p q : Process} (who : Nat) : Apart meets p q → (requests' who).userId = userId →
      ¬ q.OnByok requests' userId who → q.Records catalog requests' who [] →
      Apart meets p (q.move catalog requests' who)
  | byok {p q : Process} (who : Nat) : Apart meets p q → p.OnByok requests userId who →
      meets p (p.move catalog requests who) → Apart meets (p.move catalog requests who) q
  | byok' {p q : Process} (who : Nat) : Apart meets p q → q.OnByok requests' userId who →
      meets q (q.move catalog requests' who) → Apart meets p (q.move catalog requests' who)

/-- The two runs give the other customers the same walks, over registries that read the
    same at every rung their routes name. -/
structure SameElsewhere (p q : Process) : Prop where
  standing : ∀ other, (requests other).userId ≠ userId → p.standing other = q.standing other
  registry : ∀ other, (requests other).userId ≠ userId →
    ∀ candidate ∈ (requests other).rungs catalog, p.health candidate.rung = q.health candidate.rung
  routed : ∀ other, (requests other).userId ≠ userId →
    (p.standing other).Routed (requests other) catalog

end Apart

/-- A call at a rung no other customer's route names is felt by no one else. -/
theorem Process.untouched_of_unnamed {catalog : TierCatalog} {requests : Nat → Serving}
    {process : Process} {who : Nat} {userId : Uuid} {candidate : ProviderCandidate}
    (calling : (process.standing who).calling = some candidate) (named : Nat → Serving)
    (h : ∀ other, (named other).userId ≠ userId → ∀ own ∈ (named other).rungs catalog,
      candidate.definition.rung ≠ own.rung) :
    Untouched catalog named userId process (process.move catalog requests who) :=
  fun other elsewhere own member => move_health_other calling (h other elsewhere own member)

section Apart

variable {catalog : TierCatalog} {userId : Uuid} {requests requests' : Nat → Serving}
  {p q : Process}

namespace SameElsewhere

theorem refl : SameElsewhere catalog userId requests .start .start where
  standing _ _ := rfl
  registry _ _ _ _ := rfl
  routed _ _ candidate member := by cases member

theorem symm (same : SameElsewhere catalog userId requests p q) :
    SameElsewhere catalog userId requests q p where
  standing other elsewhere := (same.standing other elsewhere).symm
  registry other elsewhere candidate member := (same.registry other elsewhere candidate member).symm
  routed other elsewhere := same.standing other elsewhere ▸ same.routed other elsewhere

variable (same : SameElsewhere catalog userId requests p q)
include same

/-- Another customer's request moves alike. -/
theorem other {who : Nat} (elsewhere : (requests who).userId ≠ userId)
    (agree : requests' who = requests who) :
    SameElsewhere catalog userId requests (p.move catalog requests who)
      (q.move catalog requests' who) := by
  have routed := same.routed who elsewhere
  have registry := same.registry who elsewhere
  obtain ⟨rows, alike⟩ : ∃ rows, MovesAlike (requests who) catalog p.health q.health
      (p.standing who) rows :=
    move_alike registry fun candidate member => registry _ (routed candidate member)
  have right : (q.move catalog requests' who).health = q.health.observeAll rows := by
    have := alike.right
    rw [same.standing who elsewhere, ← agree] at this
    exact this
  have place : (p.move catalog requests who).standing who =
      (q.move catalog requests' who).standing who := by
    have := alike.place
    rw [same.standing who elsewhere] at this
    rw [Process.move_standing_self, Process.move_standing_self, same.standing who elsewhere, agree]
    exact this
  refine ⟨?_, ?_, ?_⟩
  · intro other elsewhere'
    by_cases here : other = who
    · subst here
      exact place
    · rw [Process.move_standing_other here, Process.move_standing_other here]
      exact same.standing other elsewhere'
  · intro other elsewhere' candidate member
    rw [right, show (p.move catalog requests who).health = _ from alike.left]
    exact ProviderHealth.observeAll_congr rows (same.registry other elsewhere' candidate member)
  · intro other elsewhere'
    by_cases here : other = who
    · subst here
      rw [Process.move_standing_self]
      intro candidate member
      rw [Standing.order_on] at member
      exact move_routed routed candidate member
    · rw [Process.move_standing_other here]
      exact same.routed other elsewhere'

/-- A move of `userId`'s that leaves the others' rungs as it found them. -/
theorem untouched {who : Nat} (own : (requests who).userId = userId) (moving : Nat → Serving)
    (h : p.Untouched catalog requests userId (p.move catalog moving who)) :
    SameElsewhere catalog userId requests (p.move catalog moving who) q := by
  have apart : ∀ other, (requests other).userId ≠ userId → other ≠ who := by
    intro other elsewhere here
    exact elsewhere (here ▸ own)
  refine ⟨?_, ?_, ?_⟩
  · intro other elsewhere
    rw [Process.move_standing_other (apart other elsewhere)]
    exact same.standing other elsewhere
  · intro other elsewhere candidate member
    rw [h other elsewhere candidate member]
    exact same.registry other elsewhere candidate member
  · intro other elsewhere
    rw [Process.move_standing_other (apart other elsewhere)]
    exact same.routed other elsewhere

/-- Moves of `userId`'s that record the same in both runs. -/
theorem recorded {who who' : Nat} {rows : List (Instant × AttemptRecord)}
    (own : (requests who).userId = userId) (own' : (requests who').userId = userId)
    (moving : Nat → Serving) (left : p.Records catalog requests who rows)
    (right : q.Records catalog moving who' rows) :
    SameElsewhere catalog userId requests (p.move catalog requests who)
      (q.move catalog moving who') := by
  have apart : ∀ {mine}, (requests mine).userId = userId →
      ∀ other, (requests other).userId ≠ userId → other ≠ mine := by
    intro mine own other elsewhere here
    exact elsewhere (here ▸ own)
  refine ⟨?_, ?_, ?_⟩
  · intro other elsewhere
    rw [Process.move_standing_other (apart own other elsewhere),
      Process.move_standing_other (apart own' other elsewhere)]
    exact same.standing other elsewhere
  · intro other elsewhere candidate member
    rw [left, right]
    exact ProviderHealth.observeAll_congr rows (same.registry other elsewhere candidate member)
  · intro other elsewhere
    rw [Process.move_standing_other (apart own other elsewhere)]
    exact same.routed other elsewhere

end SameElsewhere

/-- A move that records nothing touches nothing. -/
theorem Process.untouched_of_records_nil {process : Process} {moving : Nat → Serving} {who : Nat}
    (named : Nat → Serving) (records : process.Records catalog moving who []) :
    process.Untouched catalog named userId (process.move catalog moving who) := by
  intro other elsewhere candidate member
  rw [records]
  rfl

/-- Runs apart in one customer's calls on their own credential are the same to the
    others, so long as those calls leave the others' rungs as they found them. -/
theorem Apart.sameElsewhere
    (agree : ∀ who, (requests who).userId ≠ userId ∨ (requests' who).userId ≠ userId →
      requests' who = requests who)
    (apart : Apart catalog userId requests requests' (Process.Untouched catalog requests userId) p q) :
    SameElsewhere catalog userId requests p q := by
  have mine : ∀ who, (requests' who).userId = userId → (requests who).userId = userId := by
    intro who own
    by_contra elsewhere
    rw [agree who (.inl elsewhere)] at own
    exact elsewhere own
  induction apart with
  | start => exact .refl
  | other who _ elsewhere ih => exact ih.other elsewhere (agree who (.inl elsewhere))
  | own who who' rows _ own own' _ _ left right ih =>
      exact ih.recorded own (mine who' own') requests' left right
  | quiet who _ own _ records ih =>
      exact ih.untouched own requests (Process.untouched_of_records_nil requests records)
  | quiet' who _ own _ records ih =>
      exact (ih.symm.untouched (mine who own) requests'
        (Process.untouched_of_records_nil requests records)).symm
  | byok who _ onByok meets ih => exact ih.untouched onByok.1 requests meets
  | byok' who _ onByok meets ih =>
      exact (ih.symm.untouched (mine who onByok.1) requests' meets).symm

/-- One customer's credential never reroutes another, in any two runs in which no call
    on it moves a rung that another customer's route names: whatever came of the calls,
    every other request's route is ordered alike, passes the same candidates and calls the
    same ones, and every rung it may name is found demoted, or not, in both. -/
theorem credential_reroutes_nobody
    (agree : ∀ who, (requests who).userId ≠ userId ∨ (requests' who).userId ≠ userId →
      requests' who = requests who)
    (apart : Apart catalog userId requests requests' (Process.Untouched catalog requests userId)
      p q) :
    ∀ other, (requests other).userId ≠ userId →
      p.standing other = q.standing other ∧
        ∀ candidate ∈ (requests other).rungs catalog, ∀ now,
          p.health.shouldSkip now candidate = q.health.shouldSkip now candidate := by
  intro other elsewhere
  have same := apart.sameElsewhere agree
  refine ⟨same.standing other elsewhere, ?_⟩
  intro candidate member now
  exact ProviderHealth.shouldSkip_congr now (same.registry other elsewhere candidate member)

end Apart

/-! A customer whose key is refused, and another on the same model. -/

/-- The next move is one of `userId`'s, and calls nothing or their own credential. -/
def freeMove (userId : Uuid) (requests : Nat → Serving) (test : ProviderCandidate → Bool)
    (process : Process) (who : Nat) : Bool :=
  (requests who).userId = userId &&
    (process.standing who).calling.all fun candidate => candidate.byok && test candidate

/-- Every move of a run is. -/
def freeRun (catalog : TierCatalog) (userId : Uuid) (requests : Nat → Serving)
    (test : ProviderCandidate → Bool) : Process → List Nat → Bool
  | _, [] => true
  | process, who :: rest =>
      freeMove userId requests test process who &&
        freeRun catalog userId requests test (process.move catalog requests who) rest

section Free

variable {catalog : TierCatalog} {userId : Uuid} {requests requests' : Nat → Serving}
  {meets : Process → Process → Prop} {test : ProviderCandidate → Bool} {p q : Process}

theorem Apart.freeRun (apart : Apart catalog userId requests requests' meets p q)
    (calls : ∀ (process : Process) who candidate,
      (process.standing who).calling = some candidate → test candidate = true →
        meets process (process.move catalog requests who))
    {moves : List Nat} (free : ZeroRouter.freeRun catalog userId requests test p moves = true) :
    Apart catalog userId requests requests' meets (p.run catalog requests moves) q := by
  induction moves generalizing p with
  | nil => exact apart
  | cons who rest ih =>
      rw [ZeroRouter.freeRun, freeMove, Bool.and_eq_true, Bool.and_eq_true, decide_eq_true_eq] at free
      obtain ⟨⟨own, allowed⟩, later⟩ := free
      refine ih ?_ later
      cases calling : (p.standing who).calling with
      | none =>
          refine .quiet who apart own ?_ (Process.records_nil calling)
          intro onByok
          simpa [calling] using onByok.2
      | some candidate =>
          rw [calling, Option.all_some, Bool.and_eq_true] at allowed
          exact .byok who apart ⟨own, by rw [calling]; exact allowed.1⟩
            (calls p who candidate calling allowed.2)

theorem Apart.symm
    (agree : ∀ who, (requests who).userId ≠ userId ∨ (requests' who).userId ≠ userId →
      requests' who = requests who)
    (apart : Apart catalog userId requests requests' meets p q) :
    Apart catalog userId requests' requests meets q p := by
  induction apart with
  | start => exact .start
  | other who _ elsewhere ih => exact ih.other who (agree who (.inl elsewhere) ▸ elsewhere)
  | own who who' rows _ own own' house house' left right ih =>
      exact ih.own who' who rows own' own house' house right left
  | quiet who _ own house records ih => exact ih.quiet' who own house records
  | quiet' who _ own house records ih => exact ih.quiet who own house records
  | byok who _ onByok meets ih => exact ih.byok' who onByok meets
  | byok' who _ onByok meets ih => exact ih.byok who onByok meets

end Free

namespace SharedRung

def entry (key credentialEnv : String) (adapter : ProviderAdapter) : ProviderMetadata :=
  { Twins.entry key adapter with credential := .required, credentialEnv := some credentialEnv }

def inventory : DeclaredInventory where
  providers := [entry "anthropic" "ANTHROPIC_API_KEY" .anthropic,
    entry "bedrock" "BEDROCK_API_KEY" .anthropicBedrockRuntime]
  settlement _ := .metered

/-- One model on two accounts. -/
def file : TierFile where
  schemaVersion := 1
  tiers := .ofList
    [("haiku",
      { candidates :=
          [Twins.candidate "haiku/anthropic" "anthropic" (Twins.flatRates 1 5),
            Twins.candidate "haiku/bedrock" "bedrock" (Twins.flatRates 1 5)]
        rates := Twins.flatRates 1 5, retention := none })]
  retention := .ofList
    [("anthropic", Twins.pin .standard), ("bedrock", Twins.pin .zero)]

def catalog : TierCatalog := (file.catalog.withhold .empty).synthesizeUnified

def services (credentials : ByokCredentials) : InferenceServices where
  unifiedIdsEnabled := false
  inventory := inventory
  covered := credentials.byProvider.map fun attached => (attached.1, attached.2.2)
  credentials := credentials
  percentiles := none
  expected _ := none
  health := .empty
  now := 0
  mint _ := .ok fun env => some env
  admitUsage _ sizing _ :=
    .ok
      { requestId := 1, apiKeyId := 1, userId := 1, requireCredits := true
        outputBound := sizing.full.outputTokens, reservation := none }

def answer : Call :=
  .answered
    { text := some "hi", toolCalls := [], reasoningContent := none
      usage := some
        { inputTokens := some 1, outputTokens := some 1, cachedInputTokens := none
          cacheWriteInputTokens := none } }

def refusal : Call :=
  .failed
    { status := some 401, text := "invalid x-api-key", retryAfterMs := none
      parameterRejection := none }

/-- A request for a model, every call of which comes to the same. -/
def serving (userId : Uuid) (model : String) (credentials : ByokCredentials) (call : Call) :
    Serving where
  userId := userId
  services := services credentials
  key := { retentionPolicy := .allowNonZdr, defaultPriority := none }
  request :=
    { model, body := { messages := [], tools := [] }, typedPriority := none
      modalities := ["text"], cacheBreakpoints := 0, maxTokens := some 16 }
  messages := []
  stream := false
  buffered :=
    { started := ⟨0, 0⟩
      arrival := fun _ => { now := ⟨0, 0⟩, observed := [], closed := false }
      attempt := fun _ _ =>
        { start := ⟨0, 0⟩, call, observed := [], finish := ⟨0, 0⟩, slept := fun _ => true }
      persists := fun _ => true }
  streamed :=
    { started := ⟨0, 0⟩
      arrival := fun _ => { now := ⟨0, 0⟩, observed := [], closed := false }
      attempt := fun _ =>
        { start := ⟨0, 0⟩, call, steps := [], stop := .final, opened := true, observed := []
          finish := ⟨0, 0⟩, closed := false }
      persists := fun _ => true }

/-- Two requests of one customer, on the key they attached, and all others of another
    customer, on the house's. -/
def requests (model : String) (call : Call) (who : Nat) : Serving :=
  if who < 2 then serving 1 "haiku/anthropic" { byProvider := [("anthropic", "sk-own", false)] } call
  else serving 2 model .empty answer

def refusedRun (model : String) : Process :=
  Process.start.run catalog (requests model refusal) [0, 0, 0, 0, 1, 1, 1, 1, 2, 2, 2]

def answeredRun (model : String) : Process :=
  Process.start.run catalog (requests model answer) [0, 0, 0, 1, 1, 1, 2, 2, 2]


/-- Only what comes of the first customer's calls differs. -/
theorem agree (model : String) (who : Nat)
    (h : (requests model refusal who).userId ≠ 1 ∨ (requests model answer who).userId ≠ 1) :
    requests model answer who = requests model refusal who := by
  unfold requests at h ⊢
  by_cases own : who < 2
  · rw [if_pos own, if_pos own] at h
    rcases h with h | h <;> exact absurd rfl h
  · rw [if_neg own, if_neg own]

/-- The runs of the two customers, `meets` being met by every call at the house's rung. -/
theorem apart {model : String} {meets : Process → Process → Prop}
    (calls : ∀ call process who candidate,
      (process.standing who).calling = some candidate →
        (candidate.definition.rung = ("anthropic", "model")) →
          meets process (process.move catalog (requests model call) who))
    (refused : freeRun catalog 1 (requests model refusal)
      (fun candidate => candidate.definition.rung = ("anthropic", "model")) .start
      [0, 0, 0, 0, 1, 1, 1, 1] = true)
    (answered : freeRun catalog 1 (requests model answer)
      (fun candidate => candidate.definition.rung = ("anthropic", "model")) .start
      [0, 0, 0, 1, 1, 1] = true) :
    Apart catalog 1 (requests model refusal) (requests model answer) meets
      (refusedRun model) (answeredRun model) := by
  have first : Apart catalog 1 (requests model refusal) (requests model answer) meets _ _ :=
    Apart.start.freeRun (fun process who candidate calling named =>
      calls refusal process who candidate calling (of_decide_eq_true named)) refused
  have second := (first.symm (agree model)).freeRun (fun process who candidate calling named =>
      calls answer process who candidate calling (of_decide_eq_true named)) answered
  have both := second.symm fun who h => (agree model who h.symm).symm
  have elsewhere : (requests model refusal 2).userId ≠ 1 := (by decide : (2 : Uuid) ≠ 1)
  exact ((both.other 2 elsewhere).other 2 elsewhere).other 2 elsewhere

end SharedRung

/-- Two refusals of one customer's key demote the house's rung for another. -/
theorem credential_reroutes :
    (∀ who, (SharedRung.requests "haiku" SharedRung.refusal who).userId ≠ 1 ∨
        (SharedRung.requests "haiku" SharedRung.answer who).userId ≠ 1 →
      SharedRung.requests "haiku" SharedRung.answer who =
        SharedRung.requests "haiku" SharedRung.refusal who) ∧
    Apart SharedRung.catalog 1 (SharedRung.requests "haiku" SharedRung.refusal)
      (SharedRung.requests "haiku" SharedRung.answer) (fun _ _ => True)
      (SharedRung.refusedRun "haiku") (SharedRung.answeredRun "haiku") ∧
    ((SharedRung.refusedRun "haiku").standing 2).order.map (·.definition.id) =
      ["haiku/bedrock", "haiku/anthropic"] ∧
    ((SharedRung.answeredRun "haiku").standing 2).order.map (·.definition.id) =
      ["haiku/anthropic", "haiku/bedrock"] ∧
    ¬ ∀ other, (SharedRung.requests "haiku" SharedRung.refusal other).userId ≠ 1 →
      (SharedRung.refusedRun "haiku").standing other =
        (SharedRung.answeredRun "haiku").standing other := by
  have refused : ((SharedRung.refusedRun "haiku").standing 2).order.map (·.definition.id) =
      ["haiku/bedrock", "haiku/anthropic"] := by decide +kernel
  have answered : ((SharedRung.answeredRun "haiku").standing 2).order.map (·.definition.id) =
      ["haiku/anthropic", "haiku/bedrock"] := by decide +kernel
  refine ⟨SharedRung.agree "haiku",
    SharedRung.apart (fun _ _ _ _ _ _ => trivial) (by decide +kernel) (by decide +kernel),
    refused, answered, ?_⟩
  intro same
  rw [same 2 (by decide), answered] at refused
  exact absurd refused (by decide)

/-- The other customer asks for a rung the refused key does not dial. -/
theorem credential_reroutes_nobody_elsewhere :
    (SharedRung.refusedRun "haiku/bedrock").standing 2 =
        (SharedRung.answeredRun "haiku/bedrock").standing 2 ∧
      ∀ candidate ∈ (SharedRung.requests "haiku/bedrock" SharedRung.refusal 2).rungs
          SharedRung.catalog, ∀ now,
        (SharedRung.refusedRun "haiku/bedrock").health.shouldSkip now candidate =
          (SharedRung.answeredRun "haiku/bedrock").health.shouldSkip now candidate := by
  have unnamed : ∀ other, (SharedRung.requests "haiku/bedrock" SharedRung.refusal other).userId ≠ 1 →
      ∀ own ∈ (SharedRung.requests "haiku/bedrock" SharedRung.refusal other).rungs
        SharedRung.catalog, ("anthropic", "model") ≠ own.rung := by
    intro other elsewhere
    unfold SharedRung.requests at elsewhere ⊢
    by_cases mine : other < 2
    · rw [if_pos mine] at elsewhere
      exact absurd rfl elsewhere
    · rw [if_neg mine]
      decide +kernel
  refine credential_reroutes_nobody (SharedRung.agree "haiku/bedrock")
    (SharedRung.apart ?_ (by decide +kernel) (by decide +kernel)) 2 (by decide)
  intro call process who candidate calling named
  exact Process.untouched_of_unnamed calling _ (named ▸ unnamed)

end ZeroRouter
