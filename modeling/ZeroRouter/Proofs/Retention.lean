import ZeroRouter.Proofs.Pipeline
import ZeroRouter.Proofs.Margin

/-!
# Retention routing fails closed

A posture is what the catalog gives a served candidate.  The route of a unified name
carries the posture of each of its candidates, every narrowing keeps that, and the
switch reads it; so what is left to dispatch, in whatever order, has the postures the
key permits.
-/

namespace ZeroRouter

open List Ordered Relational

namespace TierCatalog

variable {inventory : DeclaredInventory} {catalog : TierCatalog} {route requested : CatalogRoute}
  {own : CatalogCandidate} {bare : String} {candidate : ProviderCandidate}

/-! ## The posture of a candidate -/

/-- A served candidate and the posture its tier, or else its provider, is pinned to. -/
def HasPosture (catalog : TierCatalog) (candidate : TierCandidate) (posture : RetentionPosture) :
    Prop :=
  ∃ tier definition own pin,
    catalog.tiers.get? tier = some definition ∧ own ∈ definition.candidates ∧
      own.toTierCandidate = candidate ∧ catalog.candidateRetention definition own = some pin ∧
      pin.posture = posture

/-- A route that carries, for each of its candidates, the posture the catalog gives it. -/
def Postured (catalog : TierCatalog) (route : CatalogRoute) : Prop :=
  ∀ own ∈ route.candidates, ∃ posture,
    route.retention.get? own.id = some posture ∧
      catalog.HasPosture own.toTierCandidate posture

/-- The posture a postured route carries is the candidate's. -/
theorem Postured.hasPosture (h : catalog.Postured route) (hown : own ∈ route.candidates)
    {posture : RetentionPosture} (hget : route.retention.get? own.id = some posture) :
    catalog.HasPosture own.toTierCandidate posture := by
  obtain ⟨carried, hcarried, hposture⟩ := h own hown
  rw [hcarried, Option.some.injEq] at hget
  exact hget ▸ hposture

/-! ## The route of a unified name -/

/-- A candidate a unified name joins: served, and named so after its vendor. -/
def JoinedUnder (catalog : TierCatalog) (bare : String) (own : CatalogCandidate) : Prop :=
  (∃ tier definition, catalog.tiers.get? tier = some definition ∧ own ∈ definition.candidates) ∧
    ∃ vendor, splitOnce '/' own.id = some (vendor, bare)

theorem bareName_eq_some {id : String} (h : catalog.bareName id = some bare) :
    ∃ vendor, splitOnce '/' id = some (vendor, bare) := by
  obtain ⟨hsplit, -⟩ := Option.filter_eq_some_iff.mp h
  obtain ⟨⟨vendor, name⟩, hcut, rfl⟩ := Option.map_eq_some_iff.mp hsplit
  exact ⟨vendor, hcut⟩

/-- What a unified name resolves to, in a loaded catalog. -/
structure UnifiedRoute (catalog : TierCatalog) (bare : String) (route : CatalogRoute) : Prop where
  routed : route.routed = true
  postured : catalog.Postured route
  joined : ∀ own ∈ route.candidates, catalog.JoinedUnder bare own
  providers : 2 ≤ (route.candidates.map (·.provider)).dedup.length

theorem Loaded.resolveUnified_ok (loaded : catalog.Loaded inventory)
    (hunified : catalog.unified = catalog.groups.filterMap unify)
    (h : catalog.resolveUnified bare = some route) :
    catalog.UnifiedRoute bare route := by
  obtain ⟨unified, hget, rfl⟩ := Option.map_eq_some_iff.mp h
  obtain ⟨members, hgroup, hmade⟩ := unified_get? hunified hget
  obtain ⟨hproviders, -, hcandidates, hretention⟩ := unify_eq_some hmade
  have hmembers : ∀ own ∈ unified.definition.candidates, ∃ member ∈ ranked members,
      member.candidate = own := by
    intro own hown
    rw [hcandidates] at hown
    exact mem_map.mp hown
  refine ⟨rfl, ?_, ?_, ?_⟩
  · intro own hown
    obtain ⟨member, hmember, rfl⟩ := hmembers own hown
    obtain ⟨posture, hposture⟩ : ∃ posture,
        unified.retention.get? member.candidate.id = some posture := by
      rw [hretention]
      exact SortedMap.get?_ofList_exists (mem_map_of_mem
        (f := fun member : Member => (member.candidate.id, member.posture)) hmember)
    refine ⟨posture, hposture, ?_⟩
    -- The entry found is some member's of the same id, hence this candidate's.
    rw [hretention] at hposture
    obtain ⟨other, hother, hentry⟩ := mem_map.mp (SortedMap.mem_of_get?_ofList hposture)
    rw [Prod.mk.injEq] at hentry
    obtain ⟨tier, definition, hown⟩ := mem_group hgroup (mem_ranked.mp hmember)
    obtain ⟨tier', definition', hother'⟩ := mem_group hgroup (mem_ranked.mp hother)
    obtain ⟨rfl, hsame⟩ := loaded.unique hother'.served hown.served hother'.candidate
      hown.candidate hentry.1
    obtain ⟨pin, hpin, hown'⟩ := hother'.posture
    rw [hsame] at hpin
    exact ⟨tier, definition', member.candidate, pin, hown.served, hown.candidate, rfl, hpin,
      hown'.trans hentry.2⟩
  · intro own hown
    obtain ⟨member, hmember, rfl⟩ := hmembers own hown
    obtain ⟨tier, definition, hmember⟩ := mem_group hgroup (mem_ranked.mp hmember)
    exact ⟨⟨tier, definition, hmember.served, hmember.candidate⟩, bareName_eq_some hmember.named⟩
  · show 2 ≤ (unified.definition.candidates.map (·.provider)).dedup.length
    have hperm : (ranked members).Perm members := perm_insertionSort _ members
    rw [hcandidates, map_map]
    have := ((hperm.map fun member => member.candidate.provider).dedup).length_eq
    exact hproviders.trans_eq this.symm

end TierCatalog

/-! ## The request -/

section Request

variable {inventory : DeclaredInventory} {isDate : String → Bool} {file : TierFile}
  {catalog : TierCatalog} {services : InferenceServices} {key : KeyPolicy}
  {request : InferenceRequest} {suffix : Option Priority} {posture : RetentionPosture}
  {route : CatalogRoute}

/-- A routed request's route carries the postures of its candidates. -/
theorem requested_postured (loaded : catalog.Loaded inventory)
    (hunified : catalog.unified = catalog.groups.filterMap TierCatalog.unify)
    (h : resolveRequested catalog services.unifiedIdsEnabled request.model = .ok (requested, suffix))
    (hrouted : requested.routed = true) : catalog.Postured requested := by
  obtain ⟨bare, hbare⟩ := resolveRequested_routed h hrouted
  exact (loaded.resolveUnified_ok hunified hbare).postured

/-- What the switch left of a routed request has postures the key permits. -/
theorem route_permitted (loaded : catalog.Loaded inventory)
    (hunified : catalog.unified = catalog.groups.filterMap TierCatalog.unify)
    (h : routeRequest catalog services.unifiedIdsEnabled key request = .ok (route, suffix))
    (hrouted : route.routed = true) (hown : own ∈ route.candidates) :
    ∃ posture, route.retention.get? own.id = some posture ∧
      catalog.HasPosture own.toTierCandidate posture ∧
        key.retentionPolicy.permits posture = true := by
  obtain ⟨requested, hrequested, hroute⟩ := routeRequest_ok h
  have hrouted' : requested.routed = true := hroute.narrows.routed ▸ hrouted
  obtain ⟨posture, hget, hpermits⟩ := (hroute.permitted hrouted').2 own hown
  have postured := requested_postured loaded hunified hrequested hrouted'
  refine ⟨posture, ?_, ?_, hpermits⟩
  · rw [hroute.narrows.retention]
    exact hget
  · exact postured.hasPosture (hroute.narrows.candidates.subset hown) hget

theorem permits_zdrOnly (h : RetentionPolicy.zdrOnly.permits posture = true) : posture = .zero := by
  cases posture with
  | zero => rfl
  | standard => cases h

/-- The rank of a rung is that of the posture its route carries for it. -/
theorem retentionRank_eq (h : route.retention.get? candidate.definition.id = some posture) :
    retentionRank route.retention candidate = posture.orderingRank := by
  rw [retentionRank, h, Option.getD_some]

/-- A posture ranks first exactly when it is zero retention. -/
theorem RetentionPosture.orderingRank_le_zero :
    posture.orderingRank ≤ 0 ↔ posture = .zero := by
  cases posture <;> simp [orderingRank]

theorem RetentionPosture.orderingRank_pos :
    0 < posture.orderingRank ↔ posture = .standard := by
  cases posture <;> simp [orderingRank]

/-- The partition: the rungs ranked first, then the others, each part in the order it
    was given. -/
theorem partitionRouteByRetention_eq (retention : SortedMap String RetentionPosture)
    (candidates : List ProviderCandidate) :
    partitionRouteByRetention retention candidates =
      candidates.filter (fun candidate => retentionRank retention candidate ≤ 0) ++
        candidates.filter fun candidate => 0 < retentionRank retention candidate := by
  have hrank : ∀ candidate, retentionRank retention candidate ≤ 1 := by
    intro candidate
    unfold retentionRank
    cases (retention.get? candidate.definition.id).getD .standard <;> simp [RetentionPosture.orderingRank]
  have hzero : ∀ rungs : List ProviderCandidate,
      rungs.filter (fun candidate => retentionRank retention candidate ≤ 0) =
        rungs.filter fun candidate => retentionRank retention candidate = 0 := by
    intro rungs
    apply filter_congr
    intro candidate _
    simp
  have hone : ∀ rungs : List ProviderCandidate,
      rungs.filter (fun candidate => 0 < retentionRank retention candidate) =
        rungs.filter fun candidate => retentionRank retention candidate = 1 := by
    intro rungs
    apply filter_congr
    intro candidate _
    have := hrank candidate
    rw [decide_eq_decide]
    omega
  unfold partitionRouteByRetention
  rw [split_of_pairwise (pairwise_sortByRank (retentionRank retention) candidates) 0, hzero, hone,
    hzero, hone, filter_sortByRank, filter_sortByRank]

/-- Under `zdr_only` a routed request is left zero-retention candidates alone. -/
theorem route_zeroOnly (loaded : catalog.Loaded inventory)
    (hunified : catalog.unified = catalog.groups.filterMap TierCatalog.unify)
    (hpolicy : key.retentionPolicy = .zdrOnly) {suffix' : Option Priority}
    (hrequested : resolveRequested catalog services.unifiedIdsEnabled request.model =
      .ok (requested, suffix)) (hrouted : requested.routed = true)
    (hroute : routeRequest catalog services.unifiedIdsEnabled key request = .ok (route, suffix')) :
    (∃ own ∈ route.candidates, own ∈ requested.candidates ∧ request.Cacheable own) ∧
      ∀ own ∈ route.candidates, catalog.HasPosture own.toTierCandidate .zero := by
  obtain ⟨requested', hrequested', hnarrowed⟩ := routeRequest_ok hroute
  rw [hrequested, Except.ok.injEq, Prod.mk.injEq] at hrequested'
  obtain ⟨rfl, -⟩ := hrequested'
  refine ⟨?_, ?_⟩
  · obtain ⟨own, hown⟩ := exists_mem_of_ne_nil _ (hnarrowed.permitted hrouted).1
    exact ⟨own, hown, hnarrowed.narrows.candidates.subset hown, hnarrowed.cacheable own hown⟩
  · intro own hown
    obtain ⟨posture, _, hposture, hpermits⟩ := route_permitted loaded hunified hroute
      (hnarrowed.narrows.routed.trans hrouted) hown
    rw [hpolicy] at hpermits
    exact permits_zdrOnly hpermits ▸ hposture

/-- Every rung an admitted routed request is ordered by ranks as its posture does. -/
theorem admitted_rank (loaded : catalog.Loaded inventory)
    (hunified : catalog.unified = catalog.groups.filterMap TierCatalog.unify)
    {admitted : AdmittedRequest} {sizing : ReservationSizing × ByokReservation}
    {built : ProviderRoute}
    (came : admitted.Came services key request catalog suffix sizing built)
    (hrouted : admitted.route.routed = true) (hmem : candidate ∈ admitted.candidates) :
    ∃ posture, retentionRank admitted.route.retention candidate = posture.orderingRank ∧
      catalog.HasPosture candidate.definition posture := by
  obtain ⟨own, hown, hdefinition⟩ := came.definition hmem
  obtain ⟨posture, hget, hposture, _⟩ := route_permitted loaded hunified came.routed hrouted hown
  rw [← hdefinition]
  refine ⟨posture, retentionRank_eq ?_, hposture⟩
  rw [← hdefinition]
  exact hget

end Request

/-! ## What is promised -/

/-- What retention routing promises of a catalog and a request. -/
structure RetentionHolds (catalog : TierCatalog) (services : InferenceServices)
    (key : KeyPolicy) (request : InferenceRequest) : Prop where
  /-- Under `zdr_only` a routed request dials, and mints for, zero retention alone. -/
  zeroOnly : key.retentionPolicy = .zdrOnly →
    ∀ requested suffix,
      resolveRequested catalog services.unifiedIdsEnabled request.model =
        .ok (requested, suffix) →
      requested.routed = true →
        (∀ candidates, .mint candidates ∈ (inference services key request catalog).1 →
          ∀ candidate ∈ candidates, catalog.HasPosture candidate .zero) ∧
        ∀ effects admitted, inference services key request catalog = (effects, .ok admitted) →
          ∀ candidate ∈ admitted.candidates, catalog.HasPosture candidate.definition .zero
  /-- With no such candidate the refusal comes before any step outside the process. -/
  refused : key.retentionPolicy = .zdrOnly →
    ∀ requested suffix,
      resolveRequested catalog services.unifiedIdsEnabled request.model =
        .ok (requested, suffix) →
      requested.routed = true →
      (∀ own ∈ requested.candidates, request.Cacheable own →
        ¬ catalog.HasPosture own.toTierCandidate .zero) →
        ∃ error, inference services key request catalog = ([], .error error)
  /-- Otherwise a routed walk takes every zero-retention rung before any other, and each
      class in the order selection and health put it. -/
  partitioned : key.retentionPolicy = .allowNonZdr →
    ∀ effects admitted, inference services key request catalog = (effects, .ok admitted) →
      admitted.route.routed = true →
        ∃ requested suffix built zeros standards,
          resolveRequested catalog services.unifiedIdsEnabled request.model =
              .ok (requested, suffix) ∧
            providerRoute services request admitted.route = .ok built ∧
            let ordered := selectionOrder services request admitted.route
              (resolvedPriority key request suffix) built.candidates
            admitted.candidates = zeros ++ standards ∧ admitted.candidates.Perm ordered ∧
              (zeros.Sublist ordered ∧
                ∀ candidate ∈ zeros, catalog.HasPosture candidate.definition .zero) ∧
              standards.Sublist ordered ∧
                ∀ candidate ∈ standards, catalog.HasPosture candidate.definition .standard

/-- What a unified name joins, and what it leaves alone. -/
structure UnifiedNamesHold (catalog : TierCatalog) : Prop where
  joins : ∀ bare route, catalog.resolveUnified bare = some route →
    (∀ own ∈ route.candidates, catalog.JoinedUnder bare own) ∧
      2 ≤ (route.candidates.map (·.provider)).dedup.length
  /-- Whatever names are unified, an id that addresses something by itself keeps it. -/
  leaves : ∀ (unified : SortedMap String UnifiedModel) (unifiedIdsEnabled : Bool) (id : String)
    (route : CatalogRoute), catalog.resolve id = some route →
      TierCatalog.resolve { catalog with unified } id = some route ∧
        resolveModel { catalog with unified } unifiedIdsEnabled id = some route ∧
        route.routed = false

section Holds

variable {inventory : DeclaredInventory} {catalog : TierCatalog}

theorem retentionHolds (loaded : catalog.Loaded inventory)
    (hunified : catalog.unified = catalog.groups.filterMap TierCatalog.unify)
    (services : InferenceServices) (key : KeyPolicy) (request : InferenceRequest) :
    RetentionHolds catalog services key request := by
  refine ⟨?_, ?_, ?_⟩
  · intro hpolicy requested suffix hrequested hrouted
    refine ⟨?_, ?_⟩
    · intro candidates hmint candidate hcandidate
      obtain ⟨route, suffix', hroute, rfl⟩ := inference_mint hmint
      obtain ⟨own, hown, rfl⟩ := mem_map.mp hcandidate
      exact (route_zeroOnly loaded hunified hpolicy hrequested hrouted hroute).2 own hown
    · intro effects admitted hadmitted candidate hcandidate
      obtain ⟨suffix', sizing, built, came⟩ := inference_ok hadmitted
      obtain ⟨own, hown, hdefinition⟩ := came.definition hcandidate
      rw [← hdefinition]
      exact (route_zeroOnly loaded hunified hpolicy hrequested hrouted came.routed).2 own hown
  · intro hpolicy requested suffix hrequested hrouted hnone
    cases hroute : routeRequest catalog services.unifiedIdsEnabled key request with
    | error error => exact ⟨error, inference_refused hroute⟩
    | ok routed =>
        -- A route that survived the switch has a candidate, and it would be one.
        obtain ⟨route, suffix'⟩ := routed
        obtain ⟨⟨own, hown, hasked, hcacheable⟩, hzero⟩ :=
          route_zeroOnly loaded hunified hpolicy hrequested hrouted hroute
        exact absurd (hzero own hown) (hnone own hasked hcacheable)
  · intro _ effects admitted hadmitted hrouted
    obtain ⟨suffix, sizing, built, came⟩ := inference_ok hadmitted
    obtain ⟨requested, hrequested, _⟩ := routeRequest_ok came.routed
    have hcandidates : admitted.candidates =
        partitionRouteByRetention admitted.route.retention
          (selectionOrder services request admitted.route (resolvedPriority key request suffix)
            built.candidates) := by
      rw [came.ordered, dispatchOrder, if_pos hrouted]
    have hperm : admitted.candidates.Perm
        (selectionOrder services request admitted.route (resolvedPriority key request suffix)
          built.candidates) := by
      rw [hcandidates]
      exact sortByRank_perm _ _
    refine ⟨requested, suffix, built, _, _, hrequested, came.assembled,
      hcandidates.trans (partitionRouteByRetention_eq _ _), hperm, ⟨filter_sublist, ?_⟩,
      filter_sublist, ?_⟩
    · intro candidate hcandidate
      obtain ⟨hmem, hrank⟩ := mem_filter.mp hcandidate
      obtain ⟨posture, hrank', hposture⟩ :=
        admitted_rank loaded hunified came hrouted (hperm.mem_iff.mpr hmem)
      rw [decide_eq_true_eq, hrank', RetentionPosture.orderingRank_le_zero] at hrank
      exact hrank ▸ hposture
    · intro candidate hcandidate
      obtain ⟨hmem, hrank⟩ := mem_filter.mp hcandidate
      obtain ⟨posture, hrank', hposture⟩ :=
        admitted_rank loaded hunified came hrouted (hperm.mem_iff.mpr hmem)
      rw [decide_eq_true_eq, hrank', RetentionPosture.orderingRank_pos] at hrank
      exact hrank ▸ hposture

theorem unifiedNamesHold (loaded : catalog.Loaded inventory)
    (hunified : catalog.unified = catalog.groups.filterMap TierCatalog.unify) :
    UnifiedNamesHold catalog := by
  refine ⟨?_, ?_⟩
  · intro bare route hroute
    have joined := loaded.resolveUnified_ok hunified hroute
    exact ⟨joined.joined, joined.providers⟩
  · intro unified unifiedIdsEnabled id route hroute
    have hsame : TierCatalog.resolve { catalog with unified } id = some route := hroute
    exact ⟨hsame, resolveModel_of_resolve hsame, TierCatalog.resolve_not_routed hroute⟩

end Holds

/-- Zero-retention routing fails closed, whatever the catalog that loads and whatever is
    asked of it. -/
theorem zdr_routing_fails_closed {inventory : DeclaredInventory} {isDate : String → Bool}
    {file : TierFile} {catalog : TierCatalog}
    (h : loadTierCatalog inventory isDate file = .ok catalog) (services : InferenceServices)
    (key : KeyPolicy) (request : InferenceRequest) :
    RetentionHolds catalog services key request ∧ UnifiedNamesHold catalog := by
  obtain ⟨loaded, hunified⟩ := loadTierCatalog_ok h
  exact ⟨retentionHolds loaded hunified services key request, unifiedNamesHold loaded hunified⟩

namespace Twins

/-- A deployment with no customer keys and a cold estimator, that admits whatever it is
    asked. -/
def services : InferenceServices where
  unifiedIdsEnabled := true
  inventory := inventory
  covered := []
  credentials := .empty
  percentiles := none
  expected _ := none
  health := .empty
  now := 0
  mint _ := .ok fun _ => none
  admitUsage _ sizing _ :=
    .ok
      { requestId := 1, apiKeyId := 1, userId := 1, requireCredits := true
        outputBound := sizing.full.outputTokens, reservation := none }

def request (model : String) : InferenceRequest where
  model := model
  body := { messages := [], tools := [] }
  typedPriority := none
  modalities := ["text"]
  cacheBreakpoints := 0
  maxTokens := some 16

def key (retentionPolicy : RetentionPolicy) : KeyPolicy where
  retentionPolicy := retentionPolicy
  defaultPriority := none

def admitted (retentionPolicy : RetentionPolicy) (model : String) : Option AdmittedRequest :=
  (inference services (key retentionPolicy) (request model) catalog).2.toOption

/-- The ids a request under a policy is walked over. -/
def walked (retentionPolicy : RetentionPolicy) (model : String) : Option (List String) :=
  (admitted retentionPolicy model).map fun request => request.candidates.map (·.definition.id)

end Twins

theorem twins_fail_closed :
    Twins.walked .zdrOnly "haiku" = some ["bedrock/haiku"] ∧
      Twins.walked .allowNonZdr "haiku" = some ["bedrock/haiku", "anthropic/haiku"] ∧
      RetentionHolds Twins.catalog Twins.services (Twins.key .zdrOnly) (Twins.request "haiku") ∧
      UnifiedNamesHold Twins.catalog :=
  ⟨by decide +kernel, by decide +kernel,
    zdr_routing_fails_closed Twins.loads Twins.services (Twins.key .zdrOnly) (Twins.request "haiku")⟩

end ZeroRouter
