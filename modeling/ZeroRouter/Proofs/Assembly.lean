import ZeroRouter.Api.Route
import ZeroRouter.Lib.Table

/-!
# The route a catalog list is assembled into

Route assembly caches the clients it dials and remembers the providers it cannot
dispatch to.  Neither shows in the route: it is, candidate by candidate, what each
definition contributes on its own.
-/

namespace ZeroRouter

open List Relational

variable {assembly' : Assembly} {definitions : List TierCandidate}

section Assembly

variable (inventory : ProviderInventory) (maxOutputTokens : Nat) (byok : ByokCredentials)
  (readEnv : String → Option String)

/-- The client of a definition's plane, dialled anew with the customer's credential
    or with the house's. -/
def planeClient (metadata : ProviderMetadata) (definition : TierCandidate)
    (byokCredential : Option String) : Option ModelProvider :=
  match metadata.dispatchable (credentialForEntry metadata byokCredential readEnv) with
  | .missing _ => none
  | .ready credential endpoint surfaces =>
      (dialPlane maxOutputTokens metadata definition byokCredential.isSome credential endpoint
        surfaces).toOption

/-- The twin a definition's rung is backed by. -/
def twinClientOf (metadata : ProviderMetadata) (definition : TierCandidate) :
    Option ModelProvider :=
  if (byokCredentialFor metadata byok).isSome ∧ byok.fallsBack metadata.key then
    planeClient maxOutputTokens readEnv metadata definition none
  else none

/-- What a definition contributes to a route: its own rung, then the twin. -/
def rungsOf (definition : TierCandidate) : List ProviderCandidate :=
  match inventory.provider definition.provider with
  | none => []
  | some metadata =>
      match planeClient maxOutputTokens readEnv metadata definition
          (byokCredentialFor metadata byok) with
      | none => []
      | some provider =>
          ⟨definition, provider, (byokCredentialFor metadata byok).isSome, none⟩ ::
            (twinClientOf maxOutputTokens byok readEnv metadata definition).toList.map fun house =>
              ⟨definition, house, false, some metadata.key⟩

/-- What holds of the assembly once some definitions are through: the route so far is
    what they contribute, a cached client is the one that would be dialled, and a
    provider set aside cannot be dispatched to. -/
structure Assembly.Sound (done : List TierCandidate) (assembly : Assembly) : Prop where
  available : assembly.available =
    done.flatMap (rungsOf inventory maxOutputTokens byok readEnv)
  cached : ∀ slot provider, assembly.client slot = some provider →
    ∀ metadata definition, inventory.provider slot.1 = some metadata →
      definition.surface = slot.2.1 →
      planeClient maxOutputTokens readEnv metadata definition
        (if slot.2.2 then byokCredentialFor metadata byok else none) = some provider
  unavailable : ∀ key ∈ assembly.unavailable, ∀ metadata,
    inventory.provider key = some metadata → ∀ definition,
      planeClient maxOutputTokens readEnv metadata definition (byokCredentialFor metadata byok) =
        none

end Assembly

section Spec

variable {inventory : ProviderInventory} {maxOutputTokens : Nat} {byok : ByokCredentials}
  {readEnv : String → Option String} {metadata : ProviderMetadata}
  {definition : TierCandidate} {done : List TierCandidate} {assembly : Assembly}

theorem ProviderInventory.provider_key
    (h : inventory.provider definition.provider = some metadata) :
    metadata.key = definition.provider := by
  have := find?_some h
  simpa using this

@[simp] theorem credentialForEntry_none :
    credentialForEntry metadata none readEnv = readEnv := rfl

/-- Which client is dialled depends on a definition's plane only. -/
theorem planeClient_surface {definition' : TierCandidate} {byokCredential : Option String}
    (h : definition'.surface = definition.surface) :
    planeClient maxOutputTokens readEnv metadata definition' byokCredential =
      planeClient maxOutputTokens readEnv metadata definition byokCredential := by
  unfold planeClient dialPlane
  rw [h]
  cases metadata.dispatchable (credentialForEntry metadata byokCredential readEnv) with
  | missing env => rfl
  | ready credential endpoint surfaces =>
      dsimp only
      cases metadata.plane definition.surface endpoint surfaces <;> rfl

theorem Assembly.Sound.empty :
    Assembly.empty.Sound inventory maxOutputTokens byok readEnv [] where
  available := rfl
  cached := by
    intro slot provider h
    cases h
  unavailable := by
    intro key hkey
    cases hkey

/-- A client dialled for a slot may be cached there. -/
theorem Assembly.Sound.cache (h : assembly.Sound inventory maxOutputTokens byok readEnv done)
    (hkey : inventory.provider metadata.key = some metadata) {slotByok : Bool}
    {provider : ModelProvider}
    (hdial : planeClient maxOutputTokens readEnv metadata definition
      (if slotByok then byokCredentialFor metadata byok else none) = some provider) :
    { assembly with
      providers := ((metadata.key, definition.surface, slotByok), provider) ::
        assembly.providers }.Sound inventory maxOutputTokens byok readEnv done where
  available := h.available
  unavailable := h.unavailable
  cached := by
    intro slot found hfound other definition' hother hsurface
    unfold Assembly.client at hfound
    rw [find?_cons] at hfound
    by_cases hslot : (metadata.key, definition.surface, slotByok) = slot
    · subst hslot
      simp only [decide_true, Option.map_some, Option.some.injEq] at hfound
      subst hfound
      rw [hkey] at hother
      cases hother
      rw [planeClient_surface hsurface]
      exact hdial
    · rw [decide_eq_false hslot] at hfound
      exact h.cached slot found hfound other definition' hother hsurface

/-- The candidate's own client is the one that would be dialled, or its provider is
    set aside. -/
theorem ownClient_ok (h : assembly.Sound inventory maxOutputTokens byok readEnv done)
    (hkey : inventory.provider metadata.key = some metadata) {provider : Option ModelProvider}
    (hown : ownClient maxOutputTokens readEnv metadata definition
      (byokCredentialFor metadata byok) assembly = .ok (provider, assembly')) :
    provider = planeClient maxOutputTokens readEnv metadata definition
        (byokCredentialFor metadata byok) ∧
      assembly'.Sound inventory maxOutputTokens byok readEnv done := by
  have slotCredential : (if (byokCredentialFor metadata byok).isSome = true then
      byokCredentialFor metadata byok else none) = byokCredentialFor metadata byok := by
    cases byokCredentialFor metadata byok <;> rfl
  unfold ownClient at hown
  dsimp only at hown
  cases hcached : assembly.client
      (metadata.key, definition.surface, (byokCredentialFor metadata byok).isSome) with
  | some found =>
      rw [hcached] at hown
      cases hown
      have := h.cached _ found hcached metadata definition hkey rfl
      rw [slotCredential] at this
      exact ⟨this.symm, h⟩
  | none =>
      rw [hcached] at hown
      dsimp only at hown
      cases hready : metadata.dispatchable
          (credentialForEntry metadata (byokCredentialFor metadata byok) readEnv) with
      | missing env =>
          rw [hready] at hown
          cases hown
          have hnone : ∀ definition, planeClient maxOutputTokens readEnv metadata definition
              (byokCredentialFor metadata byok) = none := by
            intro definition
            simp [planeClient, hready]
          refine ⟨(hnone definition).symm, h.available, h.cached, ?_⟩
          intro key hmem other hother definition'
          rcases mem_cons.mp hmem with rfl | hmem
          · rw [hkey] at hother
            cases hother
            exact hnone definition'
          · exact h.unavailable key hmem other hother definition'
      | ready credential endpoint surfaces =>
          rw [hready] at hown
          dsimp only at hown
          obtain ⟨dialled, hdial, hrest⟩ := bind_eq_ok.mp hown
          cases hrest
          have : planeClient maxOutputTokens readEnv metadata definition
              (byokCredentialFor metadata byok) = some dialled := by
            simp [planeClient, hready, hdial, Except.toOption]
          refine ⟨this.symm, h.cache hkey ?_⟩
          rw [slotCredential]
          exact this

/-- The twin's client is the house client that would be dialled. -/
theorem twinClient_eq (h : assembly.Sound inventory maxOutputTokens byok readEnv done)
    (hkey : inventory.provider metadata.key = some metadata) {twin : Option ModelProvider}
    (htwin : twinClient maxOutputTokens readEnv metadata definition assembly = (twin, assembly')) :
    twin = planeClient maxOutputTokens readEnv metadata definition none ∧
      assembly'.Sound inventory maxOutputTokens byok readEnv done := by
  unfold twinClient at htwin
  dsimp only at htwin
  cases hcached : assembly.client (metadata.key, definition.surface, false) with
  | some found =>
      rw [hcached] at htwin
      cases htwin
      exact ⟨(h.cached _ found hcached metadata definition hkey rfl).symm, h⟩
  | none =>
      rw [hcached] at htwin
      dsimp only at htwin
      cases hready : metadata.dispatchable readEnv with
      | missing env =>
          rw [hready] at htwin
          cases htwin
          refine ⟨?_, h⟩
          simp [planeClient, hready]
      | ready credential endpoint surfaces =>
          rw [hready] at htwin
          dsimp only at htwin
          cases hdial : dialPlane maxOutputTokens metadata definition false credential endpoint
              surfaces with
          | error err =>
              rw [hdial] at htwin
              cases htwin
              refine ⟨?_, h⟩
              simp [planeClient, hready, hdial, Except.toOption]
          | ok dialled =>
              rw [hdial] at htwin
              cases htwin
              have : planeClient maxOutputTokens readEnv metadata definition none =
                  some dialled := by
                simp [planeClient, hready, hdial, Except.toOption]
              exact ⟨this.symm, h.cache hkey this⟩

/-- One pass of the assembly loop adds what the definition contributes. -/
theorem assembleCandidate_sound (h : assembly.Sound inventory maxOutputTokens byok readEnv done)
    (hpass : assembleCandidate inventory maxOutputTokens byok readEnv assembly definition =
      .ok assembly') :
    assembly'.Sound inventory maxOutputTokens byok readEnv (done ++ [definition]) := by
  unfold assembleCandidate at hpass
  cases hentry : inventory.provider definition.provider with
  | none =>
      rw [hentry] at hpass
      cases hpass
  | some metadata =>
      rw [hentry] at hpass
      dsimp only at hpass
      have hkey : inventory.provider metadata.key = some metadata := by
        rw [ProviderInventory.provider_key hentry]
        exact hentry
      by_cases hset : metadata.key ∈ assembly.unavailable
      · -- A provider set aside earlier contributes nothing.
        rw [if_pos hset] at hpass
        cases hpass
        have hnone := h.unavailable metadata.key hset metadata hkey definition
        refine ⟨?_, h.cached, h.unavailable⟩
        rw [flatMap_append, ← h.available]
        simp [rungsOf, hentry, hnone]
      · rw [if_neg hset, bind_eq_ok] at hpass
        obtain ⟨⟨provider, dialled⟩, hown, hpass⟩ := hpass
        obtain ⟨hprovider, hdialled⟩ := ownClient_ok h hkey hown
        dsimp only at hpass
        cases provider with
        | none =>
            cases hpass
            refine ⟨?_, hdialled.cached, hdialled.unavailable⟩
            rw [flatMap_append, ← hdialled.available]
            simp [rungsOf, hentry, ← hprovider]
        | some provider =>
            -- Recording whose credential dialled touches neither the cache nor the route.
            have hnoted : (if (byokCredentialFor metadata byok).isSome = true then
                { dialled with byokProviders := metadata.key :: dialled.byokProviders }
                else dialled).Sound inventory maxOutputTokens byok readEnv done := by
              split
              · exact ⟨hdialled.available, hdialled.cached, hdialled.unavailable⟩
              · exact hdialled
            dsimp only at hpass
            generalize (if (byokCredentialFor metadata byok).isSome = true then
                { dialled with byokProviders := metadata.key :: dialled.byokProviders }
                else dialled) = noted at hnoted hpass
            have hcontributes : ∀ twin, twin =
                twinClientOf maxOutputTokens byok readEnv metadata definition →
                rungsOf inventory maxOutputTokens byok readEnv definition =
                  ⟨definition, provider, (byokCredentialFor metadata byok).isSome, none⟩ ::
                    twin.toList.map fun house =>
                      ⟨definition, house, false, some metadata.key⟩ := by
              rintro twin rfl
              simp [rungsOf, hentry, ← hprovider]
            by_cases hfalls : (byokCredentialFor metadata byok).isSome = true ∧
                byok.fallsBack metadata.key = true
            · rw [if_pos hfalls] at hpass
              cases htwin : twinClient maxOutputTokens readEnv metadata definition noted with
              | mk twin final =>
                  rw [htwin] at hpass
                  cases hpass
                  obtain ⟨hhouse, hfinal⟩ := twinClient_eq hnoted hkey htwin
                  refine ⟨?_, hfinal.cached, hfinal.unavailable⟩
                  rw [flatMap_append, ← hfinal.available, flatMap_singleton,
                    hcontributes twin (by simp [twinClientOf, hfalls, hhouse])]
            · rw [if_neg hfalls] at hpass
              cases hpass
              refine ⟨?_, hnoted.cached, hnoted.unavailable⟩
              rw [flatMap_append, ← hnoted.available, flatMap_singleton,
                hcontributes none (by simp only [twinClientOf, if_neg hfalls])]

/-- The assembly loop, over any catalog list. -/
theorem assembleCandidates_sound (h : assembly.Sound inventory maxOutputTokens byok readEnv done)
    (hrun : definitions.foldlM (assembleCandidate inventory maxOutputTokens byok readEnv)
      assembly = .ok assembly') :
    assembly'.Sound inventory maxOutputTokens byok readEnv (done ++ definitions) := by
  induction definitions generalizing done assembly with
  | nil =>
      cases hrun
      rw [append_nil]
      exact h
  | cons definition rest ih =>
      rw [foldlM_cons, bind_eq_ok] at hrun
      obtain ⟨next, hpass, hrest⟩ := hrun
      have := ih (assembleCandidate_sound h hpass) hrest
      rwa [append_assoc, singleton_append] at this

/-- A built route is what its definitions contribute, one after the other. -/
theorem buildWithByok_ok {route : ProviderRoute}
    (h : buildWithByok inventory maxOutputTokens byok readEnv definitions = .ok route) :
    definitions ≠ [] ∧
      route.candidates = definitions.flatMap (rungsOf inventory maxOutputTokens byok readEnv) := by
  unfold buildWithByok at h
  by_cases hempty : definitions.isEmpty = true
  · rw [if_pos hempty] at h
    cases h
  · rw [if_neg hempty, bind_eq_ok] at h
    obtain ⟨assembly, hrun, h⟩ := h
    refine ⟨fun hnil => hempty (isEmpty_iff.mpr hnil), ?_⟩
    by_cases hnone : assembly.available.isEmpty = true
    · rw [if_pos hnone] at h
      cases h
    · rw [if_neg hnone] at h
      cases h
      exact (assembleCandidates_sound .empty hrun).available

/-- A rung dispatches the definition it was built for. -/
theorem rungsOf_definition {definition : TierCandidate} {candidate : ProviderCandidate}
    (h : candidate ∈ rungsOf inventory maxOutputTokens byok readEnv definition) :
    candidate.definition = definition := by
  unfold rungsOf at h
  cases hentry : inventory.provider definition.provider with
  | none => simp [hentry] at h
  | some metadata =>
      cases hclient : planeClient maxOutputTokens readEnv metadata definition
          (byokCredentialFor metadata byok) with
      | none => simp [hentry, hclient] at h
      | some provider =>
          simp only [hentry, hclient, mem_cons, mem_map] at h
          rcases h with rfl | ⟨house, _, rfl⟩
          · rfl
          · rfl

/-- A built route dispatches definitions it was given. -/
theorem buildWithByok_definition {route : ProviderRoute}
    (h : buildWithByok inventory maxOutputTokens byok readEnv definitions = .ok route)
    {candidate : ProviderCandidate} (hmem : candidate ∈ route.candidates) :
    candidate.definition ∈ definitions := by
  rw [(buildWithByok_ok h).2] at hmem
  obtain ⟨definition, hdefinition, hrung⟩ := mem_flatMap.mp hmem
  rw [rungsOf_definition hrung]
  exact hdefinition

end Spec

end ZeroRouter
