import ZeroRouter.Api.Inference

/-!
# Candidate ordering, read by read

`src/router/src/api.rs` `order_candidates`, with each of its reads told apart: the health registry
and the estimator are shared with other requests and with the refresher, and either may have changed
from one candidate's read to the next one's.

`orderCandidates` of `ZeroRouter.Api.Route` is this function where nothing changes.  The costs are
`f64`s under `total_cmp`, of which only the linear order is used.
-/

namespace ZeroRouter.Selection

/-- `CostContext`, over the median a warm cell holds and what a cost is. -/
structure CostContext (Tokens Cost : Type) where
  /-- The request's own cell. -/
  signatureCell : Option Tokens
  /-- What each lookup of a candidate's cell comes to, in the order they are made. -/
  lookup : Nat → String → Option Tokens
  /-- `expected_cost_basis`, at the request's input bytes. -/
  expectedCostBasis : ModelRates → Tokens → Cost
  infinity : Cost
  isFree : TierCandidate → Bool

/-- What each read of the registry finds, and the clock it reads. -/
structure HealthReads where
  registry : Nat → ProviderHealth
  clock : Nat → Instant

/-- `should_skip`, as the read it is. -/
def HealthReads.shouldSkip (health : HealthReads) (read : Nat) (definition : TierCandidate) :
    Bool :=
  (health.registry read).shouldSkip (health.clock read) definition

/-- Each candidate with what is read for it, in order. -/
def tagged {β : Type} (read : Nat → TierCandidate → β) (candidates : List ProviderCandidate) :
    List (β × ProviderCandidate) :=
  candidates.zipIdx.map fun (candidate, index) => (read index candidate.definition, candidate)

section Cost

variable {Tokens Cost : Type} [LinearOrder Cost] (estimates : CostContext Tokens Cost)

/-- The base rates' cost of a candidate, from its own cell or from the request's. -/
def expectedCost (read : Nat) (definition : TierCandidate) : Option Cost :=
  ((estimates.lookup read definition.id).or estimates.signatureCell).map
    (estimates.expectedCostBasis definition.rates.base)

/-- `order_priced_by_expected_cost`. -/
def orderPricedByExpectedCost (candidates : List ProviderCandidate) : List ProviderCandidate :=
  let expected := tagged (expectedCost estimates) candidates
  if expected.any (·.1.isNone) then candidates
  else
    let priced := expected.map fun (cost, candidate) => (cost.getD estimates.infinity, candidate)
    (priced.mergeSort fun left right => left.1 ≤ right.1).map (·.2)

/-- `order_by_expected_cost`. -/
def orderByExpectedCost (candidates : List ProviderCandidate) : List ProviderCandidate :=
  candidates.filter (fun candidate => estimates.isFree candidate.definition) ++
    orderPricedByExpectedCost estimates
      (candidates.filter fun candidate => !estimates.isFree candidate.definition)

/-- The healthy, then the demoted. -/
def partitionByHealth (health : HealthReads) (candidates : List ProviderCandidate) :
    List ProviderCandidate :=
  let verdicts := tagged health.shouldSkip candidates
  (verdicts.filter (!·.1)).map (·.2) ++ (verdicts.filter (·.1)).map (·.2)

/-- `order_candidates`. -/
def orderCandidates (priority : Priority) (health : HealthReads)
    (metadata : TierCandidate → ModelMetadata) (needs : RequestNeeds)
    (candidates : List ProviderCandidate) : List ProviderCandidate :=
  let ordered :=
    match priority with
    | .cost => orderByExpectedCost estimates candidates
    | .balanced | .success => candidates
  let ordered := partitionByHealth health ordered
  match priority with
  | .cost =>
      partitionFirst (fun candidate => (metadata candidate.definition).canServe needs) ordered
  | .balanced | .success => ordered

end Cost

end ZeroRouter.Selection
