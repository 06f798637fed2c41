import ZeroRouter.Config.Validate

/-!
# Loading a catalog and resolving against it

`src/router/src/config.rs` `load_tier_catalog`, the two resolutions a request makes
(`resolve` over the tiers, `resolve_unified` over the names synthesized from them),
and `model_listing`, the rows `/v1/models` publishes.
-/

namespace ZeroRouter

open Ordered Relational

/-- `UnavailableTier`. -/
structure UnavailableTier where
  tier : String
  reason : TierConfigError
  definition : TierDefinition
  deriving DecidableEq, Repr

/-- `TierCatalog`. -/
structure TierCatalog extends TierFile where
  unavailable : SortedMap String UnavailableTier
  unified : SortedMap String UnifiedModel

/-- What a parse leaves of the fields the file does not state. -/
def TierFile.catalog (file : TierFile) : TierCatalog :=
  { file with unavailable := .empty, unified := .empty }

/-- `ResolvedRoute` with everything resolution attaches to it. -/
structure CatalogRoute where
  requestedModel : String
  candidates : List CatalogCandidate
  sellRates : RateSchedule
  retention : SortedMap String RetentionPosture
  routed : Bool

/-- The route as the walk and admission read it. -/
def CatalogRoute.resolved (route : CatalogRoute) : ResolvedRoute where
  requestedModel := route.requestedModel
  candidates := route.candidates.map (·.toTierCandidate)
  sellRates := route.sellRates

/-- `ModelListing`. -/
structure ModelListing where
  ownedBy : String
  sellRates : RateSchedule
  metadata : ModelMetadata
  retention : RetentionPin
  deriving DecidableEq, Repr

namespace TierCatalog

variable (catalog : TierCatalog)

/-! ## Postures -/

/-- `candidate_retention`: the tier's override, else its provider's pin. -/
def candidateRetention (definition : TierDefinition) (candidate : CatalogCandidate) :
    Option RetentionPin :=
  definition.retention.or (catalog.retention.get? candidate.provider)

/-- The fold of `tier_retention`: the first of the weakest pins, unless a provider has
    none. -/
def weakerPin (weakest : Option RetentionPin) (pin : Option RetentionPin) :
    Option (Option RetentionPin) :=
  pin.map fun pin =>
    some (weakest.elim pin fun weakest =>
      if weakest.posture.weaker pin.posture = weakest.posture then weakest else pin)

/-- `tier_retention`. -/
def tierRetention (definition : TierDefinition) : Option RetentionPin :=
  match definition.retention with
  | some override => some override
  | none =>
      ((definition.candidates.map fun candidate => catalog.retention.get? candidate.provider).foldlM
        weakerPin none).join

/-- `route_retention`. -/
def routeRetention (definition : TierDefinition) (candidates : List CatalogCandidate) :
    SortedMap String RetentionPosture :=
  .ofList (candidates.filterMap fun candidate =>
    (catalog.candidateRetention definition candidate).map fun pin => (candidate.id, pin.posture))

/-! ## Resolution -/

/-- The route of a whole tier. -/
def tierRoute (requestedModel : String) (definition : TierDefinition) : CatalogRoute where
  requestedModel := requestedModel
  candidates := definition.candidates
  sellRates := definition.rates
  retention := catalog.routeRetention definition definition.candidates
  routed := false

/-- The route of one candidate addressed inside its tier. -/
def candidateRoute (requestedModel : String) (definition : TierDefinition)
    (candidate : CatalogCandidate) : CatalogRoute where
  requestedModel := requestedModel
  candidates := [candidate]
  sellRates := definition.rates
  retention := catalog.routeRetention definition [candidate]
  routed := false

/-- `resolve`: a tier by its id, else a candidate by its own. -/
def resolve (requestedModel : String) : Option CatalogRoute :=
  match (catalog.tiers.get? requestedModel).filter fun tier => !tier.candidates.isEmpty with
  | some definition => some (catalog.tierRoute requestedModel definition)
  | none =>
      catalog.tiers.values.findSome? fun definition =>
        (definition.candidates.find? fun candidate => candidate.id = requestedModel).map
          (catalog.candidateRoute requestedModel definition)

/-- `unavailable_for`. -/
def unavailableFor (requestedModel : String) : Option UnavailableTier :=
  (catalog.unavailable.get? requestedModel).or
    (catalog.unavailable.values.find? fun withheld =>
      withheld.definition.candidates.any fun candidate => candidate.id = requestedModel)

/-- `resolve_unified`. -/
def resolveUnified (requestedModel : String) : Option CatalogRoute :=
  (catalog.unified.get? requestedModel).map fun unified =>
    { requestedModel := requestedModel
      candidates := unified.definition.candidates
      sellRates := unified.definition.rates
      retention := unified.retention
      routed := true }

/-! ## Unified names -/

/-- A pin's contribution to a bare name (`Member`). -/
structure Member where
  candidate : CatalogCandidate
  sellRates : RateSchedule
  posture : RetentionPosture
  deriving DecidableEq, Repr

/-- The bare name a candidate's id ends in, where it is simple and addresses nothing
    yet. -/
def bareName (id : String) : Option String :=
  ((splitOnce '/' id).map (·.2)).filter fun bare =>
    !(bare.toList.isEmpty || bare.toList.contains '/' || catalog.tiers.contains bare)

/-- The members a tier contributes, each with its bare name. -/
def members (definition : TierDefinition) : List (String × Member) :=
  definition.candidates.filterMap fun candidate => do
    let bare ← catalog.bareName candidate.id
    let pin ← catalog.candidateRetention definition candidate
    return (bare, { candidate, sellRates := definition.rates, posture := pin.posture })

/-- The members of every bare name, in the tiers' order. -/
def groups : SortedMap String (List Member) :=
  (catalog.tiers.values.flatMap catalog.members).foldl
    (fun groups member => groups.push member.1 member.2) .empty

/-- The unified model of one group: at least two providers, one sell schedule, zero
    retention first. -/
def unify (_bare : String) (members : List Member) : Option UnifiedModel :=
  if (members.map fun member => member.candidate.provider).dedup.length < 2 then none
  else
    (RateSchedule.dearestAcross (members.map (·.sellRates))).map fun sellRates =>
      let members :=
        members.insertionSort fun a b => a.posture.orderingRank ≤ b.posture.orderingRank
      { definition :=
          { candidates := members.map (·.candidate), rates := sellRates, retention := none }
        retention := .ofList (members.map fun member => (member.candidate.id, member.posture)) }

/-- `synthesize_unified`. -/
def synthesizeUnified : TierCatalog :=
  { catalog with unified := catalog.groups.filterMap unify }

/-! ## Loading -/

/-- The body of `withhold`'s loop. -/
def withholdOne (catalog : TierCatalog) (entry : String × TierConfigError) : TierCatalog :=
  match catalog.tiers.get? entry.1 with
  | none => catalog
  | some definition =>
      { catalog with
        tiers := catalog.tiers.erase entry.1
        unavailable :=
          catalog.unavailable.insert entry.1 { tier := entry.1, reason := entry.2, definition } }

/-- `withhold`. -/
def withhold (reasons : SortedMap String TierConfigError) : TierCatalog :=
  reasons.entries.foldl withholdOne catalog

/-! ## The public catalog -/

/-- The candidates this deployment could reach. -/
def reachable (dispatchable : String → Bool) (definition : TierDefinition) :
    List CatalogCandidate :=
  definition.candidates.filter fun candidate => dispatchable candidate.provider

/-- The row of a tier whose id is none of its candidates'. -/
def aliasRow (dispatchable : String → Bool) (tierId : String) (definition : TierDefinition) :
    Option (String × ModelListing) :=
  if definition.candidates.all fun candidate => candidate.id ≠ tierId then
    (catalog.tierRetention
      { definition with candidates := reachable dispatchable definition }).map fun retention =>
        (tierId,
          { ownedBy := "zerorouter"
            sellRates := definition.rates
            metadata := .narrowed ((reachable dispatchable definition).map (·.metadata))
            retention })
  else none

/-- The row of one candidate. -/
def candidateRow (definition : TierDefinition) (candidate : CatalogCandidate) :
    Option (String × ModelListing) :=
  (catalog.candidateRetention definition candidate).map fun retention =>
    (candidate.id,
      { ownedBy := candidate.provider
        sellRates := definition.rates
        metadata := candidate.metadata
        retention })

/-- The rows of one tier, taken into the listing: an alias row replaces what its id
    held, a candidate row does not. -/
def listTier (dispatchable : String → Bool) (models : SortedMap String ModelListing)
    (entry : String × TierDefinition) : SortedMap String ModelListing :=
  if (reachable dispatchable entry.2).isEmpty then models
  else if entry.2.candidates.all (fun candidate => candidate.id ≠ entry.1) ∧
      catalog.tierRetention
        { entry.2 with candidates := reachable dispatchable entry.2 } = none then models
  else
    ((reachable dispatchable entry.2).filterMap (catalog.candidateRow entry.2)).foldl
      (fun models row => models.insertNew row.1 row.2)
      ((catalog.aliasRow dispatchable entry.1 entry.2).elim models fun row =>
        models.insert row.1 row.2)

/-- `model_listing`. -/
def modelListing (dispatchable : String → Bool) : SortedMap String ModelListing :=
  catalog.tiers.entries.foldl (catalog.listTier dispatchable) .empty

end TierCatalog

/-- `load_tier_catalog`, from the parsed file on. -/
def loadTierCatalog (inventory : DeclaredInventory) (isDate : String → Bool) (file : TierFile) :
    Except TierConfigError TierCatalog := do
  let withheld ← validateTierCatalog inventory isDate file
  return (file.catalog.withhold withheld).synthesizeUnified

end ZeroRouter
