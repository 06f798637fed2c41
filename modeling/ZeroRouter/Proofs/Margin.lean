import ZeroRouter.Proofs.Catalog

/-!
# The margin of a served tier

Every candidate of a tier a loaded catalog serves costs, on any usage, at most what
the tier sells it at: the validator's comparison at the thresholds covers every
prompt size, and a unified name sells at no less than any of its members does.
-/

namespace ZeroRouter

open Ordered Relational

/-- A definition the catalog serves: a tier's, or a unified name's. -/
def TierCatalog.Serves (catalog : TierCatalog) (definition : TierDefinition) : Prop :=
  (∃ tier, catalog.tiers.get? tier = some definition) ∨
    ∃ bare unified, catalog.unified.get? bare = some unified ∧ unified.definition = definition

namespace TierCatalog

variable {inventory : DeclaredInventory} {catalog : TierCatalog}

/-- A candidate of a served tier is priced under its tier at every prompt size. -/
theorem Loaded.atMost_tier (loaded : catalog.Loaded inventory) {tier : String}
    {definition : TierDefinition} (hget : catalog.tiers.get? tier = some definition)
    {candidate : CatalogCandidate} (hcandidate : candidate ∈ definition.candidates)
    (promptTokens : Nat) :
    (candidate.rates.atPromptTokens promptTokens).AtMost
      (definition.rates.atPromptTokens promptTokens) := by
  have hchecked := loaded.checked tier definition hget
  have hmargin := validateEconomics_ok (loaded.economics tier definition hget candidate hcandidate)
  exact validateCandidateMargin_ok hmargin hchecked.rates
    (hchecked.candidates candidate hcandidate).rates promptTokens

/-- The members of a group all sell at valid schedules. -/
theorem Loaded.members_valid (loaded : catalog.Loaded inventory) {bare : String}
    {group : List Member} (hgroup : catalog.groups.get? bare = some group)
    {sells : RateSchedule} (hsells : sells ∈ group.map (·.sellRates)) : sells.Valid := by
  obtain ⟨member, hmember, rfl⟩ := List.mem_map.mp hsells
  obtain ⟨tier, definition, ismember⟩ := mem_group hgroup hmember
  rw [ismember.sells]
  exact (loaded.checked tier definition ismember.served).rates

/-- What a served definition sells at is valid, and no candidate of it is dearer at
    any prompt size. -/
theorem Loaded.atMost_served (loaded : catalog.Loaded inventory)
    (synthesized : catalog.unified = catalog.groups.filterMap unify)
    {definition : TierDefinition} (served : catalog.Serves definition) :
    definition.rates.Valid ∧ ∀ candidate ∈ definition.candidates, candidate.rates.Valid ∧
      ∀ promptTokens, (candidate.rates.atPromptTokens promptTokens).AtMost
        (definition.rates.atPromptTokens promptTokens) := by
  rcases served with ⟨tier, hget⟩ | ⟨bare, unified, hget, rfl⟩
  · have hchecked := loaded.checked tier definition hget
    refine ⟨hchecked.rates, ?_⟩
    intro candidate hcandidate
    exact ⟨(hchecked.candidates candidate hcandidate).rates,
      loaded.atMost_tier hget hcandidate⟩
  · obtain ⟨group, hgroup, hunify⟩ := unified_get? synthesized hget
    obtain ⟨-, hacross, hcandidates, -⟩ := unify_eq_some hunify
    have hvalid : ∀ sells ∈ group.map (·.sellRates), sells.Valid :=
      fun sells => loaded.members_valid hgroup
    cases hsells : group.map (·.sellRates) with
    | nil =>
        rw [hsells] at hacross
        cases hacross
    | cons first rest =>
        rw [hsells] at hacross hvalid
        refine ⟨RateSchedule.dearestAcross_valid hacross hvalid, ?_⟩
        intro candidate hcandidate
        rw [hcandidates] at hcandidate
        obtain ⟨member, hranked, rfl⟩ := List.mem_map.mp hcandidate
        have hmember := mem_ranked.mp hranked
        obtain ⟨tier, definition, ismember⟩ := mem_group hgroup hmember
        have hown : member.sellRates ∈ first :: rest := hsells ▸ List.mem_map_of_mem hmember
        refine ⟨((loaded.checked tier definition ismember.served).candidates _
          ismember.candidate).rates, ?_⟩
        intro promptTokens
        -- Its own tier sells no cheaper than it costs, and the name no cheaper than its tier.
        have hunder := loaded.atMost_tier ismember.served ismember.candidate promptTokens
        rw [← ismember.sells] at hunder
        exact hunder.trans
          (RateSchedule.atMost_dearestAcross hacross hown (hvalid _ hown) promptTokens)

end TierCatalog

/-- Margin is never negative: whatever a usage's prompt, completion, cached and
    cache-write counts, its cost at the serving candidate's rates is at most its price
    at the rates its tier sells at, and both can be computed. -/
theorem cost_within_sell {inventory : DeclaredInventory} {isDate : String → Bool}
    {file : TierFile} {catalog : TierCatalog}
    (h : loadTierCatalog inventory isDate file = .ok catalog) {definition : TierDefinition}
    (served : catalog.Serves definition) {candidate : CatalogCandidate}
    (hcandidate : candidate ∈ definition.candidates) {usage : OpenAiUsage}
    (counted : usage.Counted) :
    ∃ basis sell,
      usageCost (candidate.rates.atPromptTokens usage.promptTokens) usage = some basis ∧
        usageCost (definition.rates.atPromptTokens usage.promptTokens) usage = some sell ∧
        basis ≤ sell := by
  obtain ⟨loaded, synthesized⟩ := loadTierCatalog_ok h
  obtain ⟨hsells, hcandidates⟩ := loaded.atMost_served synthesized served
  obtain ⟨hbasis, hunder⟩ := hcandidates candidate hcandidate
  obtain ⟨basis, hbasis'⟩ := usageCost_total (hbasis.atPromptTokens usage.promptTokens) counted
  obtain ⟨sell, hsell'⟩ := usageCost_total (hsells.atPromptTokens usage.promptTokens) counted
  exact ⟨basis, sell, hbasis', hsell', usageCost_mono (hunder usage.promptTokens) hbasis' hsell'⟩

/-! ## A catalog of twins -/

namespace Twins

/-- An inventory of the two accounts the twins are bought on, and of a local server. -/
def entry (key : String) (adapter : ProviderAdapter) : ProviderMetadata where
  key := key
  adapter := adapter
  credential := .none
  credentialEnv := none
  needsMinting := false
  baseUrl := some "https://upstream.test"
  regionEnv := none
  projectEnv := none
  baseUrlOverride := none
  attestation := none
  surfaces := []

def inventory : DeclaredInventory where
  providers := [entry "anthropic" .anthropic, entry "bedrock" .anthropicBedrockRuntime,
    entry "local" .chatCompletions]
  settlement provider := if provider = "local" then .free else .metered

def pin (posture : RetentionPosture) : RetentionPin where
  posture := posture
  description := "fixture"
  sourceUrl := "https://policy.test"
  verified := "2026-08-20"
  sourceSha256 := "aaaaaaaaaaaaaaaaaaaaaaaaaaaaaaaaaaaaaaaaaaaaaaaaaaaaaaaaaaaaaaaa"
  sourceExtractAnchors := []

def flatRates (input output : Decimal) : RateSchedule :=
  .flat
    { inputPerMtok := some input, outputPerMtok := some output
      cachedInputPerMtok := none, cacheWritePerMtok := none }

def candidate (id provider : String) (rates : RateSchedule) : CatalogCandidate where
  id := id
  provider := provider
  model := "model"
  surface := none
  rates := rates
  metadata := .unknown

/-- A tier that sells one candidate at what it costs. -/
def pinned (id provider : String) (rates : RateSchedule) : String × TierDefinition :=
  (id, { candidates := [candidate id provider rates], rates, retention := none })

/-- One model on a retaining account and, a tenth dearer, on one that retains nothing;
    and a local model given away. -/
def file : TierFile where
  schemaVersion := 1
  tiers := .ofList
    [pinned "anthropic/haiku" "anthropic" (flatRates 1 5),
      pinned "bedrock/haiku" "bedrock" (flatRates (11 / 10) (11 / 2)),
      pinned "local/llama" "local" (flatRates 0 0)]
  retention := .ofList
    [("anthropic", pin .standard), ("bedrock", pin .zero), ("local", pin .zero)]

def catalog : TierCatalog := (file.catalog.withhold .empty).synthesizeUnified

/-- The fixture's pin is complete, whatever its posture. -/
theorem pin_validates (subject : String) (posture : RetentionPosture) :
    validateRetentionPin (fun _ => true) subject (pin posture) = .ok () := by
  have complete : ∀ text ∈ ["fixture", "https://policy.test", "2026-08-20",
      "aaaaaaaaaaaaaaaaaaaaaaaaaaaaaaaaaaaaaaaaaaaaaaaaaaaaaaaaaaaaaaaa"],
      isBlank text = false := by decide +kernel
  have fetchable : startsWith "https://" (trim "https://policy.test") = true := by decide +kernel
  have digest : (trim (pin .zero).sourceSha256).utf8ByteSize = 64 ∧
      (trim (pin .zero).sourceSha256).toList.all isAsciiHexdigit := by decide +kernel
  refine bind_eq_ok.mpr ⟨(), ?_, bind_eq_ok.mpr ⟨(), ensure_eq_ok.mpr rfl, bind_eq_ok.mpr
    ⟨(), ensure_eq_ok.mpr (.inl fetchable), bind_eq_ok.mpr
      ⟨(), ensure_eq_ok.mpr digest, ensure_eq_ok.mpr (by simp [pin])⟩⟩⟩⟩
  simp only [List.forall_mem_cons] at complete
  rw [checkAll_eq_ok]
  simp [pin, complete]

theorem pins_validate {entries : List (String × RetentionPin)}
    (h : ∀ entry ∈ entries, entry.2 = pin .standard ∨ entry.2 = pin .zero) :
    checkAll (fun entry => validateRetentionPin (fun _ => true) s!"provider {entry.1}" entry.2)
      entries = .ok () := by
  rw [checkAll_eq_ok]
  intro entry hentry
  rcases h entry hentry with hpin | hpin
  · rw [hpin]
    exact pin_validates _ _
  · rw [hpin]
    exact pin_validates _ _

theorem validates : validateTierCatalog inventory (fun _ => true) file = .ok .empty := by
  unfold validateTierCatalog
  rw [pins_validate (by decide +kernel)]
  decide +kernel

theorem loads : loadTierCatalog inventory (fun _ => true) file = .ok catalog := by
  unfold loadTierCatalog
  rw [validates]
  rfl

/-- The unified name's definition: the retaining-nothing twin first, at its price. -/
def unifiedHaiku : TierDefinition where
  candidates :=
    [candidate "bedrock/haiku" "bedrock" (flatRates (11 / 10) (11 / 2)),
      candidate "anthropic/haiku" "anthropic" (flatRates 1 5)]
  rates := flatRates (11 / 10) (11 / 2)
  retention := none

theorem unified_haiku :
    (catalog.unified.get? "haiku").map (·.definition) = some unifiedHaiku := by
  decide +kernel

theorem serves_haiku : catalog.Serves unifiedHaiku := by
  obtain ⟨unified, hget, hdefinition⟩ := Option.map_eq_some_iff.mp unified_haiku
  exact .inr ⟨"haiku", unified, hget, hdefinition⟩

def usage : OpenAiUsage where
  promptTokens := 1000
  completionTokens := 10
  totalTokens := 1010
  promptTokensDetails := none

end Twins

theorem twins_within_sell :
    ∃ basis sell,
      usageCost ((Twins.flatRates 1 5).atPromptTokens 1000) Twins.usage = some basis ∧
        usageCost ((Twins.flatRates (11 / 10) (11 / 2)).atPromptTokens 1000) Twins.usage =
          some sell ∧
        basis ≤ sell :=
  have counted : Twins.usage.Counted := ⟨by decide, by decide⟩
  cost_within_sell Twins.loads Twins.serves_haiku (List.mem_cons_of_mem _ List.mem_cons_self)
    counted

end ZeroRouter
