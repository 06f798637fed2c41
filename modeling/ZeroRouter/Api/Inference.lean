import ZeroRouter.Api.Reservation
import ZeroRouter.Config.Routes
import ZeroRouter.Estimator
import ZeroRouter.Lib.Stable

/-!
# From a request to the route its walk takes

`src/router/src/api.rs` `chat_completions`, from the loaded catalog on: the model is
resolved, the route narrowed by what the request needs and by the key's retention
switch, the reservation sized, and only then are credentials minted, the route built
and ordered, and the request admitted.

The steps that reach outside the process are kept in the order they are taken, with
what each answers as a parameter.
-/

namespace ZeroRouter

open Ordered

/-! ## What the request mechanically needs -/

/-- `RequestNeeds`. -/
structure RequestNeeds where
  promptBound : Nat
  tools : Bool
  modalities : List String
  deriving DecidableEq, Repr

/-- `ModelMetadata::can_serve`: an undeclared field refuses nothing. -/
def ModelMetadata.canServe (metadata : ModelMetadata) (needs : RequestNeeds) : Bool :=
  !(metadata.contextWindow.any fun window => window < needs.promptBound) &&
    !(needs.tools && metadata.toolCall = some false) &&
    metadata.inputModalities.all fun declared => needs.modalities.all declared.contains

/-- A request that passed validation, as the pipeline reads it.  `modalities` is what
    `needs` collects, `cacheBreakpoints` what `cache_breakpoints` counts. -/
structure InferenceRequest where
  model : String
  body : ChatCompletionRequest
  typedPriority : Option Priority
  modalities : List String
  cacheBreakpoints : Nat
  maxTokens : Option Nat
  deriving DecidableEq, Repr

def InferenceRequest.needs (request : InferenceRequest) (promptBound : Nat) : RequestNeeds where
  promptBound := promptBound
  tools := !request.body.tools.isEmpty
  modalities := request.modalities

/-- `BASELINE_MAX_TOKENS`. -/
def baselineMaxTokens : Nat := 4096

/-- `IMAGE_MODALITY`. -/
def imageModality : String := "image"

/-- What admission reads of the presenting key beside its identity. -/
structure KeyPolicy where
  retentionPolicy : RetentionPolicy
  defaultPriority : Option Priority
  deriving DecidableEq, Repr

/-- How the pipeline refuses (`ApiError`). -/
inductive InferenceError where
  | modelNotFound
  | modelUnavailable (tier : String)
  | priorityConflict
  | modalityUnsupported (model modality accepted : String)
  | promptCachingUnsupported (model : String)
  | noZeroRetentionRoute
  | api (error : ApiError)
  deriving DecidableEq, Repr

/-! ## Resolution -/

/-- `split_priority_suffix`. -/
def splitPrioritySuffix (model : String) : Option (String × Priority) := do
  let (base, keyword) ← rsplitOnce ':' model
  let priority ← Priority.fromKeyword keyword
  if base.toList.isEmpty then none else some (base, priority)

section Resolve

variable (catalog : TierCatalog) (unifiedIdsEnabled : Bool)

/-- `resolve_model`: a unified name only where the layer is on, and only after a miss. -/
def resolveModel (model : String) : Option CatalogRoute :=
  (catalog.resolve model).or (if unifiedIdsEnabled then catalog.resolveUnified model else none)

/-- `model_unresolvable`. -/
def modelUnresolvable (model : String) : InferenceError :=
  match catalog.unavailableFor model with
  | none => .modelNotFound
  | some withheld => .modelUnavailable withheld.tier

/-- The untouched name first, then the name without a priority suffix. -/
def resolveRequested (model : String) : Except InferenceError (CatalogRoute × Option Priority) :=
  match resolveModel catalog unifiedIdsEnabled model with
  | some route => .ok (route, none)
  | none =>
      match splitPrioritySuffix model with
      | none => .error (modelUnresolvable catalog model)
      | some (base, priority) =>
          match resolveModel catalog unifiedIdsEnabled base with
          | none => .error (modelUnresolvable catalog base)
          | some route => .ok (route, some priority)

end Resolve

/-! ## Narrowing -/

def CatalogCandidate.takesImage (candidate : CatalogCandidate) : Bool :=
  candidate.metadata.inputModalities.all (·.contains imageModality)

/-- `unservable_modality`. -/
def unservableModality (request : InferenceRequest) (route : CatalogRoute) :
    Option InferenceError :=
  if !request.modalities.contains imageModality || route.candidates.any (·.takesImage) then none
  else
    some (.modalityUnsupported route.requestedModel imageModality
      ((route.candidates.head?.bind (·.metadata.inputModalities)).elim "text" (", ".intercalate ·)))

/-- `unservable_prompt_caching`, and the narrowing to the rungs that sell it. -/
def narrowToCaching (request : InferenceRequest) (route : CatalogRoute) :
    Except InferenceError CatalogRoute :=
  if request.cacheBreakpoints = 0 then .ok route
  else if route.candidates.any (·.rates.pricesCacheWrites) then
    .ok { route with candidates := route.candidates.filter (·.rates.pricesCacheWrites) }
  else .error (.promptCachingUnsupported route.requestedModel)

/-- The ids eligible under a key's retention switch. -/
def eligibleIds (policy : RetentionPolicy) (route : CatalogRoute) : List String :=
  (route.retention.entries.filter fun entry => policy.permits entry.2).map (·.1)

/-- The retention switch: it governs a routed request only, and fails closed. -/
def applyRetentionSwitch (policy : RetentionPolicy) (route : CatalogRoute) :
    Except InferenceError CatalogRoute :=
  if route.routed then
    let candidates :=
      route.candidates.filter fun candidate => (eligibleIds policy route).contains candidate.id
    if candidates.isEmpty then .error .noZeroRetentionRoute else .ok { route with candidates }
  else .ok route

/-- The route a request is to be sized and built for, and its suffix priority. -/
def routeRequest (catalog : TierCatalog) (unifiedIdsEnabled : Bool) (key : KeyPolicy)
    (request : InferenceRequest) : Except InferenceError (CatalogRoute × Option Priority) := do
  let (route, suffix) ← resolveRequested catalog unifiedIdsEnabled request.model
  if request.typedPriority.isSome ∧ suffix.isSome ∧ request.typedPriority ≠ suffix then
    .error .priorityConflict
  else
    match unservableModality request route with
    | some refusal => .error refusal
    | none => do
        let route ← narrowToCaching request route
        let route ← applyRetentionSwitch key.retentionPolicy route
        return (route, suffix)

/-! ## Ordering -/

/-- A candidate's place in the retention partition; one the map does not name counts as
    retaining. -/
def retentionRank (retention : SortedMap String RetentionPosture) (candidate : ProviderCandidate) :
    Nat :=
  ((retention.get? candidate.definition.id).getD .standard).orderingRank

/-- `partition_route_by_retention`. -/
def partitionRouteByRetention (retention : SortedMap String RetentionPosture)
    (candidates : List ProviderCandidate) : List ProviderCandidate :=
  sortByRank (retentionRank retention) candidates

/-- `ResolvedRoute::sells_free`. -/
def ResolvedRoute.sellsFree (resolved : ResolvedRoute) : Bool := resolved.sellRates.areZero

/-- `TierCandidate::is_free`. -/
def isFree (inventory : DeclaredInventory) (candidate : TierCandidate) : Bool :=
  candidate.rates.areZero && inventory.providerSettlesFree candidate.provider

/-- `free_lane_admissible`. -/
def freeLaneAdmissible (resolved : ResolvedRoute) (candidates : List ProviderCandidate)
    (isFree : TierCandidate → Bool) : Bool :=
  resolved.sellsFree && !candidates.isEmpty &&
    candidates.all fun candidate => isFree candidate.definition

/-! ## The pipeline -/

/-- What the pipeline is given by the deployment: the customer's stored keys as its two
    reads report them, the segment's percentiles where they may size a reservation, the
    estimator's expected costs, and what minting and admission answer. -/
structure InferenceServices where
  unifiedIdsEnabled : Bool
  inventory : DeclaredInventory
  covered : List (String × Bool)
  credentials : ByokCredentials
  percentiles : Option OutputPercentiles
  expected : TierCandidate → Option Decimal
  health : ProviderHealth
  now : Instant
  mint : List TierCandidate → Except ProviderBuildError (String → Option String)
  admitUsage : MeteringLane → ReservationSizing → ByokReservation → Except ApiError UsageSession

/-- A step taken outside the process. -/
inductive InferenceEffect where
  | mint (candidates : List TierCandidate)
  | admitUsage (lane : MeteringLane)
  deriving DecidableEq, Repr

/-- What the walk is given. -/
structure AdmittedRequest where
  route : CatalogRoute
  candidates : List ProviderCandidate
  lane : MeteringLane
  session : UsageSession

section Pipeline

variable (services : InferenceServices) (key : KeyPolicy) (request : InferenceRequest)

def requestMaxTokens : Nat := request.maxTokens.getD baselineMaxTokens

/-- Precedence: typed, then suffix, then the key's default, then balanced. -/
def resolvedPriority (suffix : Option Priority) : Priority :=
  ((request.typedPriority.or suffix).or key.defaultPriority).getD .balanced

/-- The sizings admission chooses between, and the allowance posture. -/
def sizeRequest (route : CatalogRoute) (priority : Priority) :
    Except ApiError (ReservationSizing × ByokReservation) := do
  let maxTokens := requestMaxTokens request
  let rate := byokReservationRate route.resolved services.covered
  let full ← sizedReservation request.body route.resolved maxTokens rate
  let learned ←
    match (services.percentiles.filter fun _ => priority ≠ .success).bind fun percentiles =>
        learnedOutputBound percentiles maxTokens with
    | none => pure none
    | some bound => (sizedReservation request.body route.resolved bound rate).map some
  let posture ←
    byokReservationPosture request.body route.resolved maxTokens services.covered rate
  return ({ learned, full }, posture)

/-- What ordering reads of the request. -/
def orderingContext (route : CatalogRoute) : OrderingContext where
  expected := services.expected
  isFree := isFree services.inventory
  canServe definition :=
    (route.candidates.filter fun candidate => candidate.toTierCandidate = definition).all
      fun candidate => candidate.metadata.canServe
        (request.needs (request.body.reservationUsage (requestMaxTokens request)).promptTokens)

/-- The rungs in the order selection and health put them. -/
def selectionOrder (route : CatalogRoute) (priority : Priority)
    (candidates : List ProviderCandidate) : List ProviderCandidate :=
  orderCandidates priority (orderingContext services request route) services.health services.now
    candidates

/-- The rungs in the order the walk takes them. -/
def dispatchOrder (route : CatalogRoute) (priority : Priority)
    (candidates : List ProviderCandidate) : List ProviderCandidate :=
  let ordered := selectionOrder services request route priority candidates
  if route.routed then partitionRouteByRetention route.retention ordered else ordered

/-- `provider_route`, and how its failures are told. -/
def providerRoute (route : CatalogRoute) : Except InferenceError ProviderRoute :=
  match services.mint route.resolved.candidates with
  | .error _ => .error (.api .noProviderAvailable)
  | .ok readEnv =>
      match buildWithByok services.inventory.providers (requestMaxTokens request)
          services.credentials readEnv route.resolved.candidates with
      | .ok built => .ok built
      | .error (.noAvailableCredentials _) => .error (.modelUnavailable route.requestedModel)
      | .error _ => .error (.api .noProviderAvailable)

/-- The metering lane of the route the walk is about to take. -/
def meteringLane (route : CatalogRoute) (candidates : List ProviderCandidate) : MeteringLane :=
  if freeLaneAdmissible route.resolved candidates (isFree services.inventory) then .free
  else .reserved

/-- From the settled route on: minting, building, ordering, admission. -/
def admitRoute (route : CatalogRoute) (priority : Priority)
    (sizing : ReservationSizing × ByokReservation) :
    List InferenceEffect × Except InferenceError AdmittedRequest :=
  let mint := InferenceEffect.mint route.resolved.candidates
  match providerRoute services request route with
  | .error error => ([mint], .error error)
  | .ok built =>
      let candidates := dispatchOrder services request route priority built.candidates
      let lane := meteringLane services route candidates
      match services.admitUsage lane sizing.1 sizing.2 with
      | .error error => ([mint, .admitUsage lane], .error (.api error))
      | .ok session => ([mint, .admitUsage lane], .ok { route, candidates, lane, session })

/-- `chat_completions`: the steps taken outside the process, and the answer. -/
def inference (catalog : TierCatalog) :
    List InferenceEffect × Except InferenceError AdmittedRequest :=
  match routeRequest catalog services.unifiedIdsEnabled key request with
  | .error error => ([], .error error)
  | .ok (route, suffix) =>
      let priority := resolvedPriority key request suffix
      match sizeRequest services request route priority with
      | .error error => ([], .error (.api error))
      | .ok sizing => admitRoute services request route priority sizing

end Pipeline

end ZeroRouter
