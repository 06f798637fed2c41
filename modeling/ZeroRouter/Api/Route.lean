import ZeroRouter.Api.Health
import ZeroRouter.Byok
import Mathlib.Data.List.Infix
import Mathlib.Data.List.Perm.Basic
import Mathlib.Data.List.Sort

/-!
# The route a request walks

`src/router/src/providers.rs`: the catalog's candidates put behind clients, the
customer's own credential substituted where one was opened, and the opted-in
house twin placed behind each rung it backs.  `src/router/src/api.rs`:
`order_candidates`, the permutation the walk then takes.

The environment is a parameter (`readEnv`, after minting), as it is in the
source.  A `BTreeMap` is an association list whose last entry for a key wins.
-/

namespace ZeroRouter

/-- `BTreeMap::get` after collecting the entries in order. -/
def lookupLast {α : Type} (entries : List (String × α)) (key : String) : Option α :=
  (entries.reverse.find? (·.1 = key)).map (·.2)

/-- `byok.rs` `house_rate`. -/
def houseRate : Decimal := 1

/-! ## The provider inventory -/

/-- `ProviderAdapter`: the wire a plane speaks. -/
inductive ProviderAdapter where
  | anthropic
  | openAiResponses
  | chatCompletions
  | anthropicBedrockRuntime
  deriving DecidableEq, Repr

inductive CredentialRequirement where
  | required
  | none
  deriving DecidableEq, Repr

structure ProviderSurface where
  adapter : ProviderAdapter
  baseUrl : String
  deriving DecidableEq, Repr

/-- `ResponseAttestation`: the response header a house dispatch must carry. -/
structure ResponseAttestation where
  header : String
  expect : String
  deriving DecidableEq, Repr

/-- `ProviderMetadata`.  `baseUrlOverride` is the entry's test seam variable;
    inventory validation has parsed `attestation`. -/
structure ProviderMetadata where
  key : String
  adapter : ProviderAdapter
  credential : CredentialRequirement
  credentialEnv : Option String
  needsMinting : Bool
  baseUrl : Option String
  regionEnv : Option String
  projectEnv : Option String
  baseUrlOverride : Option String
  attestation : Option ResponseAttestation
  surfaces : List (String × ProviderSurface)
  deriving DecidableEq, Repr

abbrev ProviderInventory := List ProviderMetadata

def ProviderInventory.provider (inventory : ProviderInventory) (key : String) :
    Option ProviderMetadata :=
  inventory.find? (·.key = key)

/-- The rest of a text after its first characters are replaced, `skip` characters
    of a match being still to pass. -/
def replaceFrom (pattern replacement : List Char) : Nat → List Char → List Char
  | _, [] => []
  | skip + 1, _ :: rest => replaceFrom pattern replacement skip rest
  | 0, c :: rest =>
      if pattern <+: c :: rest then
        replacement ++ replaceFrom pattern replacement (pattern.length - 1) rest
      else c :: replaceFrom pattern replacement 0 rest

/-- One placeholder of an endpoint, filled in from the variable it names. -/
def fillPlaceholder (placeholder : String) (variable_ : Option String)
    (readEnv : String → Option String) (url : String) : Option String :=
  if placeholder.toList <:+: url.toList then
    (readEnv (variable_.getD "")).map fun value =>
      String.ofList (replaceFrom placeholder.toList value.toList 0 url.toList)
  else some url

/-- `resolve_region`. -/
def resolveRegion (baseUrl : String) (regionEnv projectEnv : Option String)
    (readEnv : String → Option String) : Option String := do
  let resolved ← fillPlaceholder "\x7bregion\x7d" regionEnv readEnv baseUrl
  fillPlaceholder "\x7bproject\x7d" projectEnv readEnv resolved

/-- `Dispatchable`. -/
inductive Dispatchable where
  | ready (credential : String) (endpoint : Option String) (surfaces : List (String × String))
  | missing (env : String)
  deriving DecidableEq, Repr

namespace ProviderMetadata

/-- Whether a customer may attach their own credential. -/
def acceptsByok (metadata : ProviderMetadata) : Bool :=
  metadata.credential = .required && !metadata.needsMinting

/-- The entry's endpoint: `none` when it cannot be addressed. -/
def endpoint (metadata : ProviderMetadata) (readEnv : String → Option String) :
    Option (Option String) :=
  match metadata.baseUrl with
  | none => some none
  | some url => (resolveRegion url metadata.regionEnv metadata.projectEnv readEnv).map some

def unresolvableEndpointEnv (metadata : ProviderMetadata) : String :=
  (metadata.regionEnv.or metadata.projectEnv).getD ""

/-- `dispatchable`: the endpoint and every plane resolved, then the credential. -/
def dispatchable (metadata : ProviderMetadata) (readEnv : String → Option String) :
    Dispatchable :=
  let endpoint :=
    match metadata.baseUrlOverride with
    | some url => some (some url)
    | none => metadata.endpoint readEnv
  let surfaces := metadata.surfaces.mapM fun surface =>
    (match metadata.baseUrlOverride with
      | some url => some url
      | none =>
          resolveRegion surface.2.baseUrl metadata.regionEnv metadata.projectEnv readEnv).map
      fun url => (surface.1, url)
  match endpoint, surfaces with
  | none, _ | _, none => .missing metadata.unresolvableEndpointEnv
  | some endpoint, some surfaces =>
      match metadata.credential with
      | .none => .ready "" endpoint surfaces
      | .required =>
          match readEnv (metadata.credentialEnv.getD "") with
          | none => .missing (metadata.credentialEnv.getD "")
          | some credential => .ready credential endpoint surfaces

/-- The wire and endpoint a candidate's plane dispatches on. -/
def plane (metadata : ProviderMetadata) (surface endpoint : Option String)
    (surfaces : List (String × String)) : Option (ProviderAdapter × Option String) :=
  match surface with
  | none => some (metadata.adapter, endpoint)
  | some name =>
      (lookupLast metadata.surfaces name).map fun plane => (plane.adapter, lookupLast surfaces name)

end ProviderMetadata

/-! ## Clients and candidates -/

/-- A client (`dyn ModelProvider`), by what it dials with. -/
structure ModelProvider where
  adapter : ProviderAdapter
  credential : String
  endpoint : Option String
  maxOutputTokens : Nat
  attestation : Option ResponseAttestation
  supportsStreaming : Bool
  deriving DecidableEq, Repr

inductive ProviderBuildError where
  | invalidInventory (detail : String)
  | emptyRoute
  | unsupportedProvider (candidate provider : String)
  | unknownSurface (candidate provider surface : String)
  | noAvailableCredentials (credentialEnvs : List String)
  deriving DecidableEq, Repr

/-- `create_provider`.  A client that dials as the customer asserts no attestation. -/
def createProvider (metadata : ProviderMetadata) (adapter : ProviderAdapter)
    (credential : String) (maxOutputTokens : Nat) (baseUrl : Option String) (byok : Bool) :
    Except ProviderBuildError ModelProvider :=
  let client :=
    { adapter, credential, endpoint := baseUrl, maxOutputTokens, attestation := none
      supportsStreaming := true }
  match adapter with
  | .anthropic | .openAiResponses => .ok client
  | .chatCompletions =>
      .ok { client with attestation := if byok then none else metadata.attestation }
  | .anthropicBedrockRuntime =>
      if baseUrl.isSome then .ok client
      else
        .error (.invalidInventory
          (s!"provider {metadata.key} dispatches on the anthropic_bedrock_runtime adapter " ++
            "with no resolved endpoint; that wire has no implied host"))

/-- `ProviderCandidate`. -/
structure ProviderCandidate where
  definition : TierCandidate
  provider : ModelProvider
  byok : Bool
  byokFallbackFor : Option String
  deriving DecidableEq, Repr

def ProviderCandidate.supportsStreaming (candidate : ProviderCandidate) : Bool :=
  candidate.provider.supportsStreaming

/-- `ByokCredentials`: the credentials opened for one request, each with its
    fallback opt-in. -/
structure ByokCredentials where
  byProvider : List (String × String × Bool)
  deriving DecidableEq, Repr

namespace ByokCredentials

def empty : ByokCredentials := { byProvider := [] }

def get (byok : ByokCredentials) (provider : String) : Option String :=
  (lookupLast byok.byProvider provider).map (·.1)

def fallsBack (byok : ByokCredentials) (provider : String) : Bool :=
  (lookupLast byok.byProvider provider).any (·.2)

end ByokCredentials

/-! ## Assembly -/

/-- A cache slot: provider, plane, and whose credential the client holds. -/
abbrev ClientSlot := String × Option String × Bool

/-- The locals of `build_with_byok`. -/
structure Assembly where
  available : List ProviderCandidate
  missingCredentials : List String
  byokProviders : List String
  providers : List (ClientSlot × ModelProvider)
  unavailable : List String

def Assembly.empty : Assembly where
  available := []
  missingCredentials := []
  byokProviders := []
  providers := []
  unavailable := []

def Assembly.client (assembly : Assembly) (slot : ClientSlot) : Option ModelProvider :=
  (assembly.providers.find? (·.1 = slot)).map (·.2)

/-- The environment with the entry's own credential variable answered by the
    customer's key. -/
def credentialForEntry (metadata : ProviderMetadata) (byokCredential : Option String)
    (readEnv : String → Option String) : String → Option String := fun env =>
  match byokCredential with
  | some credential => if some env = metadata.credentialEnv then some credential else readEnv env
  | none => readEnv env

/-- The customer's credential for an entry that can take one. -/
def byokCredentialFor (metadata : ProviderMetadata) (byok : ByokCredentials) : Option String :=
  if metadata.acceptsByok then byok.get metadata.key else none

section Build

variable (inventory : ProviderInventory) (maxOutputTokens : Nat) (byok : ByokCredentials)
  (readEnv : String → Option String)

/-- A client of one plane dialled with the credentials `dispatchable` found. -/
def dialPlane (metadata : ProviderMetadata) (definition : TierCandidate) (slotByok : Bool)
    (credential : String) (endpoint : Option String) (surfaces : List (String × String)) :
    Except ProviderBuildError ModelProvider :=
  match metadata.plane definition.surface endpoint surfaces with
  | none =>
      .error (.unknownSurface definition.id definition.provider (definition.surface.getD ""))
  | some (adapter, endpoint) =>
      createProvider metadata adapter credential maxOutputTokens endpoint slotByok

/-- The candidate's own client: cached, dialled anew, or absent because the
    upstream cannot be dispatched to. -/
def ownClient (metadata : ProviderMetadata) (definition : TierCandidate)
    (byokCredential : Option String) (assembly : Assembly) :
    Except ProviderBuildError (Option ModelProvider × Assembly) :=
  let slot := (metadata.key, definition.surface, byokCredential.isSome)
  match assembly.client slot with
  | some provider => .ok (some provider, assembly)
  | none =>
      match metadata.dispatchable (credentialForEntry metadata byokCredential readEnv) with
      | .missing env =>
          .ok (none,
            { assembly with
              missingCredentials := assembly.missingCredentials ++ [env]
              unavailable := metadata.key :: assembly.unavailable })
      | .ready credential endpoint surfaces => do
          let provider ←
            dialPlane maxOutputTokens metadata definition byokCredential.isSome credential endpoint
              surfaces
          return (some provider, { assembly with providers := (slot, provider) :: assembly.providers })

/-- The house client of the opted-in twin; a twin that cannot be built is absent. -/
def twinClient (metadata : ProviderMetadata) (definition : TierCandidate) (assembly : Assembly) :
    Option ModelProvider × Assembly :=
  let slot := (metadata.key, definition.surface, false)
  match assembly.client slot with
  | some provider => (some provider, assembly)
  | none =>
      match metadata.dispatchable readEnv with
      | .missing _ => (none, assembly)
      | .ready credential endpoint surfaces =>
          match dialPlane maxOutputTokens metadata definition false credential endpoint surfaces with
          | .error _ => (none, assembly)
          | .ok provider =>
              (some provider, { assembly with providers := (slot, provider) :: assembly.providers })

/-- One pass of the assembly loop. -/
def assembleCandidate (assembly : Assembly) (definition : TierCandidate) :
    Except ProviderBuildError Assembly :=
  match inventory.provider definition.provider with
  | none => .error (.unsupportedProvider definition.id definition.provider)
  | some metadata =>
      if metadata.key ∈ assembly.unavailable then .ok assembly
      else do
        let byokCredential := byokCredentialFor metadata byok
        let (provider, assembly) ←
          ownClient maxOutputTokens readEnv metadata definition byokCredential assembly
        match provider with
        | none => return assembly
        | some provider =>
            let assembly :=
              if byokCredential.isSome then
                { assembly with byokProviders := metadata.key :: assembly.byokProviders }
              else assembly
            let (twin, assembly) :=
              if byokCredential.isSome ∧ byok.fallsBack metadata.key then
                twinClient maxOutputTokens readEnv metadata definition assembly
              else (none, assembly)
            let own :=
              { definition, provider, byok := byokCredential.isSome, byokFallbackFor := none }
            let fallback := twin.toList.map fun provider =>
              { definition, provider, byok := false, byokFallbackFor := some metadata.key }
            return { assembly with available := assembly.available ++ own :: fallback }

/-- `ProviderRoute`. -/
structure ProviderRoute where
  candidates : List ProviderCandidate
  byokProviders : List String
  deriving DecidableEq, Repr

/-- `build_with_byok`. -/
def buildWithByok (candidates : List TierCandidate) : Except ProviderBuildError ProviderRoute :=
  if candidates.isEmpty then .error .emptyRoute
  else do
    let assembly ← candidates.foldlM (assembleCandidate inventory maxOutputTokens byok readEnv)
      Assembly.empty
    if assembly.available.isEmpty then .error (.noAvailableCredentials assembly.missingCredentials)
    else return { candidates := assembly.available, byokProviders := assembly.byokProviders }

end Build

/-! ## Ordering -/

inductive Priority where
  | cost
  | balanced
  | success
  deriving DecidableEq, Repr

/-- What ordering reads of the request: the estimator's expected cost basis of a
    candidate (`none` while cold), which candidates cost nothing, and which can
    serve what the request needs. -/
structure OrderingContext where
  expected : TierCandidate → Option Decimal
  isFree : TierCandidate → Bool
  canServe : TierCandidate → Bool

/-- A stable partition: the candidates that satisfy the test come first. -/
def partitionFirst (test : ProviderCandidate → Bool) (candidates : List ProviderCandidate) :
    List ProviderCandidate :=
  candidates.filter test ++ candidates.filter fun candidate => !test candidate

/-- `order_priced_by_expected_cost`: the identity while any candidate is unpriced. -/
def orderPricedByExpectedCost (context : OrderingContext) (candidates : List ProviderCandidate) :
    List ProviderCandidate :=
  if candidates.any fun candidate => (context.expected candidate.definition).isNone then candidates
  else
    candidates.mergeSort fun left right =>
      (context.expected left.definition).getD 0 ≤ (context.expected right.definition).getD 0

/-- `order_by_expected_cost`. -/
def orderByExpectedCost (context : OrderingContext) (candidates : List ProviderCandidate) :
    List ProviderCandidate :=
  candidates.filter (fun candidate => context.isFree candidate.definition) ++
    orderPricedByExpectedCost context
      (candidates.filter fun candidate => !context.isFree candidate.definition)

/-- `order_candidates`. -/
def orderCandidates (priority : Priority) (context : OrderingContext) (health : ProviderHealth)
    (now : Instant) (candidates : List ProviderCandidate) : List ProviderCandidate :=
  let ordered :=
    match priority with
    | .cost => orderByExpectedCost context candidates
    | .balanced | .success => candidates
  let ordered := partitionFirst (fun candidate => !health.shouldSkip now candidate.definition) ordered
  match priority with
  | .cost => partitionFirst (fun candidate => context.canServe candidate.definition) ordered
  | .balanced | .success => ordered

theorem partitionFirst_perm (test : ProviderCandidate → Bool) (candidates : List ProviderCandidate) :
    (partitionFirst test candidates).Perm candidates :=
  List.filter_append_perm test candidates

theorem orderByExpectedCost_perm (context : OrderingContext) (candidates : List ProviderCandidate) :
    (orderByExpectedCost context candidates).Perm candidates := by
  have priced : ∀ rungs, (orderPricedByExpectedCost context rungs).Perm rungs := by
    intro rungs
    unfold orderPricedByExpectedCost
    split
    · exact .refl _
    · exact List.mergeSort_perm _ _
  exact ((priced _).append_left _).trans (List.filter_append_perm _ candidates)

/-- Ordering never adds a rung or loses one. -/
theorem orderCandidates_perm (priority : Priority) (context : OrderingContext)
    (health : ProviderHealth) (now : Instant) (candidates : List ProviderCandidate) :
    (orderCandidates priority context health now candidates).Perm candidates := by
  cases priority with
  | cost =>
      exact (partitionFirst_perm _ _).trans
        ((partitionFirst_perm _ _).trans (orderByExpectedCost_perm context candidates))
  | balanced => exact partitionFirst_perm _ _
  | success => exact partitionFirst_perm _ _

end ZeroRouter
