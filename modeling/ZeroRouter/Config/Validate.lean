import ZeroRouter.Config.Catalog
import ZeroRouter.Api.Schedule
import ZeroRouter.Lib.Table
import Mathlib.Data.List.Sort

/-!
# Catalog validation

`src/router/src/config.rs` `validate_tier_catalog` and the checks it makes, in their
order.  A structural fault refuses the whole file; an economic one (a candidate
dearer than its tier sells, a cache read dearer than a fresh one) is the reason its
tier is withheld, and only a file every tier of which is withheld is refused for it.

The withheld reason is the fault itself; the source keeps its rendered text.
-/

namespace ZeroRouter

open Ordered Relational

/-- `TierConfigError`, without the failures to read or parse the file. -/
inductive TierConfigError where
  | unsupportedSchema (version : Nat)
  | invalidTierId (tier : String)
  | invalidRate (tier dimension : String)
  | unbillableRate (tier dimension : String) (rate : Decimal)
  | invalidCandidate (tier : String)
  | emptyTier (tier : String)
  | unsupportedProvider (tier provider : String)
  | unknownSurface (tier provider surface : String)
  | cacheWritePricedOffMessagesWire (tier candidate provider : String)
  | duplicateModelId (id : String)
  | prioritySuffixCollision (id : String)
  | zeroModelLimit (tier candidate field : String)
  | invalidModalities (tier candidate : String)
  | zeroPriceWithoutFreeSettlement (tier candidate provider : String)
  | negativeMargin (tier candidate dimension : String) (basis sell : Decimal) (at_ : String)
  | invalidConditionalThresholds (tier : String) (thresholds : List Nat)
  | cachedRateAboveInputRate (tier : String) (input cached : Decimal)
  | unlabelledLane (tier candidate provider : String)
  | incompleteRetentionPin (subject field : String)
  | invalidRetentionDate (subject verified : String)
  | invalidRetentionSourceUrl (subject url : String)
  | invalidRetentionDigest (subject digest : String)
  deriving DecidableEq, Repr

/-! ## Ids and pins -/

/-- `reject_priority_suffix_collision`. -/
def rejectPrioritySuffixCollision (id : String) : Except TierConfigError Unit :=
  ensure (¬ (rsplitOnce ':' id).any fun cut => (Priority.fromKeyword cut.2).isSome)
    (.prioritySuffixCollision id)

/-- `char::is_ascii_hexdigit`. -/
def isAsciiHexdigit (c : Char) : Bool :=
  ('0' ≤ c ∧ c ≤ '9') ∨ ('a' ≤ c ∧ c ≤ 'f') ∨ ('A' ≤ c ∧ c ≤ 'F')

/-- `validate_retention_pin`.  `isDate` is `chrono`'s reading of a `YYYY-MM-DD`. -/
def validateRetentionPin (isDate : String → Bool) (subject : String) (pin : RetentionPin) :
    Except TierConfigError Unit := do
  checkAll (fun entry => ensure (¬ isBlank entry.2) (.incompleteRetentionPin subject entry.1))
    [("description", pin.description), ("source_url", pin.sourceUrl),
      ("verified", pin.verified), ("source_sha256", pin.sourceSha256)]
  ensure (isDate (trim pin.verified)) (.invalidRetentionDate subject pin.verified)
  ensure (startsWith "https://" (trim pin.sourceUrl) ∨ startsWith "http://" (trim pin.sourceUrl))
    (.invalidRetentionSourceUrl subject pin.sourceUrl)
  ensure ((trim pin.sourceSha256).utf8ByteSize = 64 ∧
      (trim pin.sourceSha256).toList.all isAsciiHexdigit)
    (.invalidRetentionDigest subject pin.sourceSha256)
  ensure (¬ pin.sourceExtractAnchors.any isBlank)
    (.incompleteRetentionPin subject "source_extract_anchors")

/-! ## Rates -/

/-- `validate_rate`. -/
def validateRate (tier dimension : String) (rate : Option Decimal) (required : Bool) :
    Except TierConfigError Unit := do
  ensure (¬ ((required ∧ rate.isNone) ∨ rate.any (· < 0))) (.invalidRate tier dimension)
  match rate.filter fun value => (billableRate value).isNone with
  | some rate => .error (.unbillableRate tier dimension rate)
  | none => .ok ()

/-- `validate_rates`. -/
def validateRates (tier : String) (rates : ModelRates) : Except TierConfigError Unit := do
  validateRate tier "input_per_mtok" rates.inputPerMtok true
  validateRate tier "output_per_mtok" rates.outputPerMtok true
  validateRate tier "cached_input_per_mtok" rates.cachedInputPerMtok false
  validateRate tier "cache_write_per_mtok" rates.cacheWritePerMtok false

/-- `validate_rate_schedule`. -/
def validateRateSchedule (tier : String) (schedule : RateSchedule) :
    Except TierConfigError Unit := do
  validateRates tier schedule.base
  ensure (schedule.thresholds.head?.all (0 < ·) ∧ schedule.thresholds.IsChain (· < ·))
    (.invalidConditionalThresholds tier schedule.thresholds)
  checkAll (fun table => validateRates tier table.rates) schedule.conditional

/-! ## One candidate -/

/-- `validate_metadata`. -/
def validateMetadata (tier : String) (candidate : CatalogCandidate) :
    Except TierConfigError Unit := do
  checkAll
    (fun entry => ensure (¬ entry.2 = some 0) (.zeroModelLimit tier candidate.id entry.1))
    [("context_window", candidate.metadata.contextWindow),
      ("max_output_tokens", candidate.metadata.maxOutputTokens)]
  ensure (¬ candidate.metadata.inputModalities.any fun modalities =>
      modalities.isEmpty || modalities.any isBlank)
    (.invalidModalities tier candidate.id)

/-- `validate_zero_price`. -/
def validateZeroPrice (inventory : DeclaredInventory) (tier : String)
    (candidate : CatalogCandidate) : Except TierConfigError Unit :=
  ensure (¬ (candidate.rates.anyRequiredRatesAreZero ∧
      ¬ inventory.providerSettlesFree candidate.provider))
    (.zeroPriceWithoutFreeSettlement tier candidate.id candidate.provider)

/-- The prompt sizes the margin is probed at: the base band and every threshold of
    either side, ascending and each once. -/
def marginProbes (sell basis : RateSchedule) : List Nat :=
  ((0 :: basis.thresholds ++ sell.thresholds).insertionSort (· ≤ ·)).dedup

/-- The dimensions the margin is compared in, with each side's effective rate. -/
def marginDimensions (basis sell : ModelRates) :
    List (String × Option Decimal × Option Decimal) :=
  [("input_per_mtok", basis.inputPerMtok, sell.inputPerMtok),
    ("output_per_mtok", basis.outputPerMtok, sell.outputPerMtok),
    ("cached_input_per_mtok", basis.effectiveCachedInputPerMtok,
      sell.effectiveCachedInputPerMtok),
    ("cache_write_per_mtok", basis.effectiveCacheWritePerMtok, sell.effectiveCacheWritePerMtok)]

/-- One dimension's comparison; a rate either side leaves unset is skipped. -/
def validateMarginDimension (tier candidate : String) (probe : Nat)
    (dimension : String × Option Decimal × Option Decimal) : Except TierConfigError Unit :=
  match dimension.2 with
  | (some basis, some sell) =>
      ensure (¬ sell < basis)
        (.negativeMargin tier candidate dimension.1 basis sell
          (if probe = 0 then "" else s!" above {probe} prompt tokens"))
  | _ => .ok ()

/-- `validate_candidate_margin`. -/
def validateCandidateMargin (tier : String) (sell : RateSchedule) (candidate : CatalogCandidate) :
    Except TierConfigError Unit :=
  checkAll
    (fun probe =>
      checkAll (validateMarginDimension tier candidate.id probe)
        (marginDimensions (candidate.rates.atPromptTokens probe) (sell.atPromptTokens probe)))
    (marginProbes sell candidate.rates)

/-- `validate_cache_is_a_discount`. -/
def validateCacheIsADiscount (tier : String) (schedule : RateSchedule) :
    Except TierConfigError Unit :=
  checkAll
    (fun rates =>
      match rates.inputPerMtok, rates.cachedInputPerMtok with
      | some input, some cached =>
          ensure (¬ input < cached) (.cachedRateAboveInputRate tier input cached)
      | _, _ => .ok ())
    schedule.tables

/-- The economic checks of one candidate, the margin first. -/
def validateEconomics (tier : String) (definition : TierDefinition)
    (candidate : CatalogCandidate) : Except TierConfigError Unit := do
  validateCandidateMargin tier definition.rates candidate
  validateCacheIsADiscount tier candidate.rates
  validateCacheIsADiscount tier definition.rates

/-! ## The file -/

/-- The locals of `validate_tier_catalog`. -/
structure Validation where
  concreteIds : List String
  withheld : SortedMap String TierConfigError

section Validate

variable (inventory : DeclaredInventory) (isDate : String → Bool) (file : TierFile)

/-- A named plane must exist on the provider it names. -/
def validateSurface (tier : String) (candidate : CatalogCandidate) :
    Except TierConfigError Unit :=
  match candidate.surface with
  | some surface =>
      ensure (inventory.providerHasSurface candidate.provider surface)
        (.unknownSurface tier candidate.provider surface)
  | none => .ok ()

/-- The structural checks of a candidate, before and after its id is taken. -/
def validateCandidateShape (tier : String) (candidate : CatalogCandidate) :
    Except TierConfigError Unit := do
  ensure (¬ (isBlank candidate.id ∨ startsWith "zero/" candidate.id ∨ isBlank candidate.provider ∨
      isBlank candidate.model))
    (.invalidCandidate tier)
  rejectPrioritySuffixCollision candidate.id
  ensure (inventory.isSupportedProvider candidate.provider)
    (.unsupportedProvider tier candidate.provider)
  validateSurface inventory tier candidate
  ensure (¬ (candidate.rates.base.pricesCacheWrites ∧
      ¬ inventory.providerCarriesCacheControl candidate.provider candidate.surface))
    (.cacheWritePricedOffMessagesWire tier candidate.id candidate.provider)

def validateCandidateClaims (tier : String) (definition : TierDefinition)
    (candidate : CatalogCandidate) : Except TierConfigError Unit := do
  ensure (¬ (definition.retention.isNone ∧ ¬ file.retention.contains candidate.provider))
    (.unlabelledLane tier candidate.id candidate.provider)
  validateRateSchedule tier candidate.rates
  validateMetadata tier candidate
  validateZeroPrice inventory tier candidate

/-- The candidate loop's body.  An economic fault is kept as the tier's reason, the
    first one only, and the walk goes on. -/
def validateCandidate (tier : String) (definition : TierDefinition) (state : Validation)
    (candidate : CatalogCandidate) : Except TierConfigError Validation := do
  validateCandidateShape inventory tier candidate
  ensure (candidate.id ∉ state.concreteIds) (.duplicateModelId candidate.id)
  validateCandidateClaims inventory file tier definition candidate
  let state := { state with concreteIds := candidate.id :: state.concreteIds }
  match validateEconomics tier definition candidate with
  | .ok () => .ok state
  | .error error => .ok { state with withheld := state.withheld.insertNew tier error }

/-- A tier's own pin is checked as a provider's is. -/
def validateOverride (tier : String) (definition : TierDefinition) : Except TierConfigError Unit :=
  match definition.retention with
  | some pin => validateRetentionPin isDate s!"tier {tier}" pin
  | none => .ok ()

/-- The checks of a tier before its candidates'. -/
def validateTierShape (tier : String) (definition : TierDefinition) :
    Except TierConfigError Unit := do
  validateOverride isDate tier definition
  ensure ((startsWith "zero/" tier ∧ "zero/".utf8ByteSize < tier.utf8ByteSize) ∨
      definition.candidates.any fun candidate => candidate.id = tier)
    (.invalidTierId tier)
  rejectPrioritySuffixCollision tier
  ensure (¬ definition.candidates.isEmpty) (.emptyTier tier)
  validateRateSchedule tier definition.rates

/-- The tier loop's body. -/
def validateTier (state : Validation) (entry : String × TierDefinition) :
    Except TierConfigError Validation := do
  validateTierShape isDate entry.1 entry.2
  entry.2.candidates.foldlM (validateCandidate inventory file entry.1 entry.2) state

/-- `validate_tier_catalog`: the tiers to withhold, each with its reason. -/
def validateTierCatalog : Except TierConfigError (SortedMap String TierConfigError) := do
  ensure (file.schemaVersion = 1) (.unsupportedSchema file.schemaVersion)
  checkAll (fun entry => validateRetentionPin isDate s!"provider {entry.1}" entry.2)
    file.retention.entries
  let state ← file.tiers.entries.foldlM (validateTier inventory isDate file)
    { concreteIds := [], withheld := .empty }
  if state.withheld.entries.length = file.tiers.entries.length then
    match state.withheld.entries with
    | (_, error) :: _ => .error error
    | [] => .ok .empty
  else .ok state.withheld

end Validate

end ZeroRouter
