import ZeroRouter.Api.Inference
import ZeroRouter.Proofs.Assembly

/-!
# The request pipeline inverted

What `chat_completions` has established by the time it admits a request: where the
route came from, what each narrowing left of it, and that a refusal before the route is
built has taken no step outside the process.
-/

namespace ZeroRouter

open Ordered Relational

variable {route : CatalogRoute} {model : String} {suffix : Option Priority}
  {narrowed : CatalogRoute} {policy : RetentionPolicy}

/-! ## Resolution -/

section Resolve

variable {catalog : TierCatalog} {unifiedIdsEnabled : Bool}

/-- A tier or a candidate addressed by its own id is never routed. -/
theorem TierCatalog.resolve_not_routed (h : catalog.resolve model = some route) :
    route.routed = false := by
  unfold resolve at h
  cases htier : (catalog.tiers.get? model).filter fun tier => !tier.candidates.isEmpty with
  | some definition =>
      rw [htier, Option.some.injEq] at h
      rw [← h]
      rfl
  | none =>
      rw [htier] at h
      obtain ⟨definition, _, hfound⟩ := List.exists_of_findSome?_eq_some h
      obtain ⟨own, _, rfl⟩ := Option.map_eq_some_iff.mp hfound
      rfl

/-- What a name resolves to by itself, it resolves to whatever names are unified. -/
theorem resolveModel_of_resolve (h : catalog.resolve model = some route) :
    resolveModel catalog unifiedIdsEnabled model = some route := by
  rw [resolveModel, h, Option.some_or]

theorem resolveModel_cases (h : resolveModel catalog unifiedIdsEnabled model = some route) :
    catalog.resolve model = some route ∨ catalog.resolveUnified model = some route := by
  rcases Option.or_eq_some_iff.mp h with h | ⟨-, h⟩
  · exact .inl h
  · by_cases henabled : unifiedIdsEnabled
    · rw [if_pos henabled] at h
      exact .inr h
    · rw [if_neg henabled] at h
      cases h

/-- The name a request is resolved under is the one it asks for, or that name without
    its suffix. -/
theorem resolveRequested_ok
    (h : resolveRequested catalog unifiedIdsEnabled model = .ok (route, suffix)) :
    ∃ name, resolveModel catalog unifiedIdsEnabled name = some route := by
  unfold resolveRequested at h
  cases hmodel : resolveModel catalog unifiedIdsEnabled model with
  | some found =>
      rw [hmodel] at h
      cases h
      exact ⟨model, hmodel⟩
  | none =>
      rw [hmodel] at h
      cases hsplit : splitPrioritySuffix model with
      | none =>
          rw [hsplit] at h
          cases h
      | some cut =>
          obtain ⟨base, priority⟩ := cut
          rw [hsplit] at h
          cases hbase : resolveModel catalog unifiedIdsEnabled base with
          | none => simp [hbase] at h
          | some found =>
              simp only [hbase, Except.ok.injEq, Prod.mk.injEq] at h
              obtain ⟨rfl, -⟩ := h
              exact ⟨base, hbase⟩

/-- A routed request is one resolved under a unified name. -/
theorem resolveRequested_routed
    (h : resolveRequested catalog unifiedIdsEnabled model = .ok (route, suffix))
    (hrouted : route.routed = true) : ∃ bare, catalog.resolveUnified bare = some route := by
  obtain ⟨name, hname⟩ := resolveRequested_ok h
  rcases resolveModel_cases hname with hresolve | hunified
  · rw [TierCatalog.resolve_not_routed hresolve] at hrouted
    cases hrouted
  · exact ⟨name, hunified⟩

end Resolve

/-! ## Narrowing -/

/-- A route with fewer candidates, and all else as it was. -/
structure CatalogRoute.Narrows (narrowed route : CatalogRoute) : Prop where
  candidates : narrowed.candidates.Sublist route.candidates
  requestedModel : narrowed.requestedModel = route.requestedModel
  sellRates : narrowed.sellRates = route.sellRates
  retention : narrowed.retention = route.retention
  routed : narrowed.routed = route.routed

namespace CatalogRoute.Narrows

theorem refl (route : CatalogRoute) : route.Narrows route := ⟨.refl _, rfl, rfl, rfl, rfl⟩

theorem trans {first second third : CatalogRoute} (h : first.Narrows second)
    (h' : second.Narrows third) : first.Narrows third :=
  ⟨h.candidates.trans h'.candidates, h.requestedModel.trans h'.requestedModel,
    h.sellRates.trans h'.sellRates, h.retention.trans h'.retention, h.routed.trans h'.routed⟩

theorem filter (route : CatalogRoute) (test : CatalogCandidate → Bool) :
    Narrows { route with candidates := route.candidates.filter test } route :=
  ⟨List.filter_sublist, rfl, rfl, rfl, rfl⟩

end CatalogRoute.Narrows

/-- A candidate that can carry what the request asks to be cached. -/
def InferenceRequest.Cacheable (request : InferenceRequest) (candidate : CatalogCandidate) : Prop :=
  request.cacheBreakpoints = 0 ∨ candidate.rates.pricesCacheWrites = true

theorem narrowToCaching_ok {request : InferenceRequest}
    (h : narrowToCaching request route = .ok narrowed) :
    narrowed.Narrows route ∧
      ∀ candidate ∈ narrowed.candidates, request.Cacheable candidate := by
  unfold narrowToCaching at h
  by_cases hnone : request.cacheBreakpoints = 0
  · rw [if_pos hnone, Except.ok.injEq] at h
    subst h
    exact ⟨.refl _, fun _ _ => .inl hnone⟩
  · rw [if_neg hnone] at h
    by_cases hany : route.candidates.any (·.rates.pricesCacheWrites) = true
    · rw [if_pos hany, Except.ok.injEq] at h
      subst h
      refine ⟨.filter _ _, ?_⟩
      intro candidate hcandidate
      exact .inr (List.mem_filter.mp hcandidate).2
    · rw [if_neg hany] at h
      cases h

theorem mem_eligibleIds {id : String} :
    (eligibleIds policy route).contains id = true ↔
      ∃ posture, route.retention.get? id = some posture ∧ policy.permits posture = true := by
  unfold eligibleIds
  rw [List.contains_iff_mem, List.mem_map]
  constructor
  · rintro ⟨⟨_, posture⟩, hentry, rfl⟩
    obtain ⟨hmem, hpermits⟩ := List.mem_filter.mp hentry
    exact ⟨posture, SortedMap.mem_entries_iff.mp hmem, hpermits⟩
  · rintro ⟨posture, hget, hpermits⟩
    exact ⟨(id, posture), List.mem_filter.mpr ⟨SortedMap.mem_entries_iff.mpr hget, hpermits⟩, rfl⟩

/-- The switch leaves a routed request the candidates whose carried posture the key
    permits, and at least one. -/
theorem applyRetentionSwitch_ok (h : applyRetentionSwitch policy route = .ok narrowed) :
    narrowed.Narrows route ∧
      (route.routed = true → narrowed.candidates ≠ [] ∧
        ∀ candidate ∈ narrowed.candidates, ∃ posture,
          route.retention.get? candidate.id = some posture ∧ policy.permits posture = true) := by
  unfold applyRetentionSwitch at h
  by_cases hrouted : route.routed = true
  · rw [if_pos hrouted] at h
    simp only [List.isEmpty_iff] at h
    split at h
    · cases h
    · rename_i hnonempty
      cases h
      refine ⟨.filter _ _, fun _ => ⟨hnonempty, ?_⟩⟩
      intro candidate hcandidate
      exact mem_eligibleIds.mp (List.mem_filter.mp hcandidate).2
  · rw [if_neg hrouted, Except.ok.injEq] at h
    subst h
    exact ⟨.refl _, fun htrue => absurd htrue hrouted⟩

section Pipeline

variable {catalog : TierCatalog} {services : InferenceServices} {key : KeyPolicy}
  {request : InferenceRequest} {built : ProviderRoute} {candidate : ProviderCandidate}
  {admitted : AdmittedRequest}

/-- What the request is sized and built for, and where it came from. -/
structure RoutedRequest (key : KeyPolicy) (request : InferenceRequest)
    (requested route : CatalogRoute) : Prop where
  narrows : route.Narrows requested
  cacheable : ∀ candidate ∈ route.candidates, request.Cacheable candidate
  permitted : requested.routed = true → route.candidates ≠ [] ∧
    ∀ candidate ∈ route.candidates, ∃ posture,
      requested.retention.get? candidate.id = some posture ∧
        key.retentionPolicy.permits posture = true

theorem routeRequest_ok {unifiedIdsEnabled : Bool}
    (h : routeRequest catalog unifiedIdsEnabled key request = .ok (route, suffix)) :
    ∃ requested,
      resolveRequested catalog unifiedIdsEnabled request.model = .ok (requested, suffix) ∧
        RoutedRequest key request requested route := by
  unfold routeRequest at h
  obtain ⟨⟨requested, suffix'⟩, hrequested, hrest⟩ := bind_eq_ok.mp h
  dsimp only at hrest
  split at hrest
  · cases hrest
  · cases hmodality : unservableModality request requested with
    | some refusal =>
        rw [hmodality] at hrest
        cases hrest
    | none =>
        rw [hmodality] at hrest
        obtain ⟨cached, hcached, hswitch⟩ := bind_eq_ok.mp hrest
        obtain ⟨narrowed, hnarrowed, hdone⟩ := bind_eq_ok.mp hswitch
        cases hdone
        obtain ⟨hfirst, hcacheable⟩ := narrowToCaching_ok hcached
        obtain ⟨hsecond, hpermitted⟩ := applyRetentionSwitch_ok hnarrowed
        refine ⟨requested, hrequested, hsecond.trans hfirst, ?_, ?_⟩
        · intro candidate hcandidate
          exact hcacheable candidate (hsecond.candidates.subset hcandidate)
        · intro hrouted
          rw [← hfirst.retention]
          exact hpermitted (hfirst.routed.trans hrouted)

/-! ## Building and ordering -/

theorem providerRoute_definition (h : providerRoute services request route = .ok built)
    (hmem : candidate ∈ built.candidates) : candidate.definition ∈ route.resolved.candidates := by
  unfold providerRoute at h
  cases hmint : services.mint route.resolved.candidates with
  | error error => simp [hmint] at h
  | ok readEnv =>
      simp only [hmint] at h
      cases hbuilt : buildWithByok services.inventory.providers (requestMaxTokens request)
          services.credentials readEnv route.resolved.candidates with
      | error error => cases error <;> simp [hbuilt] at h
      | ok route' =>
          rw [hbuilt, Except.ok.injEq] at h
          exact buildWithByok_definition hbuilt (h ▸ hmem)

/-- The order the walk takes neither adds a rung nor loses one. -/
theorem dispatchOrder_perm (services : InferenceServices) (request : InferenceRequest)
    (route : CatalogRoute) (priority : Priority) (candidates : List ProviderCandidate) :
    (dispatchOrder services request route priority candidates).Perm candidates := by
  have hselection : (selectionOrder services request route priority candidates).Perm candidates :=
    orderCandidates_perm _ _ _ _ _
  unfold dispatchOrder
  by_cases hrouted : route.routed = true
  · rw [if_pos hrouted]
    exact (sortByRank_perm _ _).trans hselection
  · rw [if_neg hrouted]
    exact hselection

/-! ## Admission -/

/-- A request refused over its route has taken no step outside the process. -/
theorem inference_refused {error : InferenceError}
    (h : routeRequest catalog services.unifiedIdsEnabled key request = .error error) :
    inference services key request catalog = ([], .error error) := by
  unfold inference
  rw [h]

/-- The steps taken outside the process are taken for the route the request was given. -/
theorem inference_mint {candidates : List TierCandidate}
    (h : .mint candidates ∈ (inference services key request catalog).1) :
    ∃ route suffix, routeRequest catalog services.unifiedIdsEnabled key request = .ok (route, suffix) ∧
      candidates = route.resolved.candidates := by
  unfold inference at h
  cases hroute : routeRequest catalog services.unifiedIdsEnabled key request with
  | error error =>
      rw [hroute] at h
      cases h
  | ok routed =>
      obtain ⟨route, suffix⟩ := routed
      rw [hroute] at h
      refine ⟨route, suffix, rfl, ?_⟩
      dsimp only at h
      cases hsize : sizeRequest services request route (resolvedPriority key request suffix) with
      | error error =>
          rw [hsize] at h
          cases h
      | ok sizing =>
          rw [hsize] at h
          simp only [admitRoute] at h
          cases hbuilt : providerRoute services request route with
          | error error => simpa [hbuilt] using h
          | ok built =>
              rw [hbuilt] at h
              dsimp only at h
              split at h <;> simpa using h

/-- What an admitted request was given, stage by stage. -/
structure AdmittedRequest.Came (admitted : AdmittedRequest) (services : InferenceServices)
    (key : KeyPolicy) (request : InferenceRequest) (catalog : TierCatalog)
    (suffix : Option Priority) (sizing : ReservationSizing × ByokReservation)
    (built : ProviderRoute) : Prop where
  routed : routeRequest catalog services.unifiedIdsEnabled key request =
    .ok (admitted.route, suffix)
  sized : sizeRequest services request admitted.route (resolvedPriority key request suffix) =
    .ok sizing
  assembled : providerRoute services request admitted.route = .ok built
  ordered : admitted.candidates =
    dispatchOrder services request admitted.route (resolvedPriority key request suffix)
      built.candidates
  metered : admitted.lane = meteringLane services admitted.route admitted.candidates
  opened : services.admitUsage admitted.lane sizing.1 sizing.2 = .ok admitted.session

theorem inference_ok {effects : List InferenceEffect}
    (h : inference services key request catalog = (effects, .ok admitted)) :
    ∃ suffix sizing built,
      admitted.Came services key request catalog suffix sizing built := by
  unfold inference at h
  cases hroute : routeRequest catalog services.unifiedIdsEnabled key request with
  | error error => simp [hroute] at h
  | ok routed =>
      obtain ⟨route, suffix⟩ := routed
      rw [hroute] at h
      dsimp only at h
      cases hsize : sizeRequest services request route (resolvedPriority key request suffix) with
      | error error => simp [hsize] at h
      | ok sizing =>
          rw [hsize] at h
          simp only [admitRoute] at h
          cases hbuilt : providerRoute services request route with
          | error error => simp [hbuilt] at h
          | ok built =>
              rw [hbuilt] at h
              dsimp only at h
              split at h
              · simp at h
              · rename_i session hsession
                simp only [Prod.mk.injEq, Except.ok.injEq] at h
                obtain ⟨-, rfl⟩ := h
                exact ⟨suffix, sizing, built, hroute, hsize, hbuilt, rfl, rfl, hsession⟩

/-- A rung the walk is given dispatches a candidate of the route it was built for. -/
theorem AdmittedRequest.Came.definition {sizing : ReservationSizing × ByokReservation}
    (came : admitted.Came services key request catalog suffix sizing built)
    (hmem : candidate ∈ admitted.candidates) :
    ∃ own ∈ admitted.route.candidates, own.toTierCandidate = candidate.definition := by
  rw [came.ordered, (dispatchOrder_perm _ _ _ _ _).mem_iff] at hmem
  exact List.mem_map.mp (providerRoute_definition came.assembled hmem)

end Pipeline

end ZeroRouter
