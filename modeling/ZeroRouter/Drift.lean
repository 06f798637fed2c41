import ZeroRouter.Config.Routes

/-!
# Catalog drift

`src/router/src/drift.rs`: the catalog's recorded prices and limits against the ones a public source
publishes, one finding for each candidate of every served and withheld tier.

The source is its parsed document, none where it does not parse.  A rate of the source is read
exactly; how one is printed is a parameter.
-/

namespace ZeroRouter.Drift

open Ordered

/-! ## The source -/

structure SourceCostTierBound where
  kind : String
  size : Nat
  deriving DecidableEq, Repr

structure SourceCostTier where
  input : Option Decimal
  output : Option Decimal
  cacheRead : Option Decimal
  cacheWrite : Option Decimal
  tier : SourceCostTierBound
  deriving DecidableEq, Repr

structure SourceCost where
  input : Option Decimal
  output : Option Decimal
  cacheRead : Option Decimal
  cacheWrite : Option Decimal
  tiers : List SourceCostTier
  deriving DecidableEq, Repr

structure SourceLimit where
  context : Option Nat
  output : Option Nat
  deriving DecidableEq, Repr

structure SourceModalities where
  input : List String
  deriving DecidableEq, Repr

structure SourceModel where
  cost : Option SourceCost
  limit : Option SourceLimit
  modalities : Option SourceModalities
  toolCall : Option Bool
  deriving DecidableEq, Repr

structure SourceProvider where
  models : SortedMap String SourceModel

def promptSizeTierKind : String := "context"

/-- `measures_prompt_size`. -/
def SourceCostTier.measuresPromptSize (tier : SourceCostTier) : Bool :=
  tier.tier.kind = promptSizeTierKind

/-- A band's rates, under the catalog's names. -/
def SourceCostTier.rates (tier : SourceCostTier) : ModelRates where
  inputPerMtok := tier.input
  outputPerMtok := tier.output
  cachedInputPerMtok := tier.cacheRead
  cacheWritePerMtok := tier.cacheWrite

/-- A row's flat rates, under the catalog's names. -/
def SourceCost.rates (cost : SourceCost) : ModelRates where
  inputPerMtok := cost.input
  outputPerMtok := cost.output
  cachedInputPerMtok := cost.cacheRead
  cacheWritePerMtok := cost.cacheWrite

/-- `ModelRates::default`. -/
def unstated : ModelRates where
  inputPerMtok := none
  outputPerMtok := none
  cachedInputPerMtok := none
  cacheWritePerMtok := none

/-! ## Findings -/

inductive Verdict where
  | match_
  | basisDrift
  | unpriced
  | missing
  | unreconcilable
  | notCoveredBySource
  | tieredUpstream
  | unsupportedTierKind
  deriving DecidableEq, Repr

/-- `Verdict::is_actionable`. -/
def Verdict.isActionable : Verdict → Bool
  | .basisDrift | .missing | .tieredUpstream | .unsupportedTierKind => true
  | .match_ | .unpriced | .unreconcilable | .notCoveredBySource => false

inductive MetadataDriftKind where
  | disagrees
  | undeclared
  | narrowed
  deriving DecidableEq, Repr

structure MetadataDrift where
  field : String
  kind : MetadataDriftKind
  recorded : String
  upstream : String
  deriving DecidableEq, Repr

structure CandidateDrift where
  tier : String
  candidateId : String
  provider : String
  model : String
  matchedAs : Option String
  verdict : Verdict
  recordedBasis : ModelRates
  recordedConditional : List (Nat × ModelRates)
  upstreamCost : ModelRates
  upstreamConditional : List (Nat × ModelRates)
  sell : ModelRates
  sellConditional : List (Nat × ModelRates)
  recordedMetadata : ModelMetadata
  upstreamMetadata : ModelMetadata
  metadataDrift : List MetadataDrift
  upstreamTier : Option String
  unreconcilableReason : Option String
  deriving DecidableEq, Repr

/-! ## The join -/

/-- `undated`. -/
def undated (model : String) : Option String :=
  (rsplitOnce '-' model).bind fun (head, tail) =>
    if tail.utf8ByteSize = 8 ∧ tail.toList.all Char.isDigit then some head else none

/-- `unpublished`. -/
def unpublished (model : String) : Option String :=
  (rsplitOnce '/' model).bind fun (_, bare) => if bare.isEmpty then none else some bare

/-- The row of a model, and the name it was found under where that is another. -/
def findRow (models : SortedMap String SourceModel) (model : String) :
    Option (SourceModel × Option String) :=
  match models.get? model with
  | some entry => some (entry, none)
  | none =>
      match (undated model).bind models.get? with
      | some entry => some (entry, undated model)
      | none => ((unpublished model).bind models.get?).map fun entry => (entry, unpublished model)

/-! ## Comparison -/

/-- `EPSILON`. -/
def epsilon : Decimal := 1 / 1000000000

/-- `close`: a rate the source does not state is not disagreed about. -/
def close : Option Decimal → Option Decimal → Bool
  | some a, some b => |a - b| < epsilon
  | _, none => true
  | none, some _ => false

/-- `close_if_both`. -/
def closeIfBoth : Option Decimal → Option Decimal → Bool
  | some a, some b => |a - b| < epsilon
  | _, _ => true

/-- `rates_agree`. -/
def ratesAgree (recorded upstream : ModelRates) : Bool :=
  close recorded.inputPerMtok upstream.inputPerMtok &&
    close recorded.outputPerMtok upstream.outputPerMtok &&
    close recorded.cachedInputPerMtok upstream.cachedInputPerMtok &&
    closeIfBoth recorded.cacheWritePerMtok upstream.cacheWritePerMtok

/-- `conditional_agrees`. -/
def conditionalAgrees (recorded : RateSchedule) (upstream : List SourceCostTier) : Bool :=
  recorded.conditional.length = upstream.length &&
    (recorded.conditional.zip upstream).all fun (recorded, upstream) =>
      upstream.measuresPromptSize && recorded.minPromptTokens = upstream.tier.size &&
        ratesAgree recorded.rates upstream.rates

/-- `compare` of `metadata_drift`. -/
def compareField (field : String) (recorded upstream : Option String) (agree : Bool) :
    Option MetadataDrift :=
  upstream.bind fun upstream =>
    match recorded with
    | none => some { field, kind := .undeclared, recorded := "-", upstream }
    | some recorded =>
        if agree then none else some { field, kind := .disagrees, recorded, upstream }

/-- The modalities: what the lane claims of the model's, and what it withholds. -/
def compareModalities (recorded upstream : Option (List String)) : Option MetadataDrift :=
  let field := "input_modalities"
  match recorded, upstream with
  | _, none => none
  | none, some upstream =>
      some { field, kind := .undeclared, recorded := "-", upstream := ",".intercalate upstream }
  | some recorded, some upstream =>
      let rendered (kind : MetadataDriftKind) : MetadataDrift :=
        { field, kind, recorded := ",".intercalate recorded
          upstream := ",".intercalate upstream }
      if recorded.any fun modality => !upstream.contains modality then some (rendered .disagrees)
      else if upstream.any fun modality => !recorded.contains modality then some (rendered .narrowed)
      else none

/-- `metadata_drift`. -/
def metadataDrift (recorded upstream : ModelMetadata) : List MetadataDrift :=
  [compareField "context_window" (recorded.contextWindow.map toString)
      (upstream.contextWindow.map toString) (recorded.contextWindow = upstream.contextWindow),
    compareField "max_output_tokens" (recorded.maxOutputTokens.map toString)
      (upstream.maxOutputTokens.map toString)
      (recorded.maxOutputTokens = upstream.maxOutputTokens),
    compareModalities recorded.inputModalities upstream.inputModalities,
    compareField "tool_call" (recorded.toolCall.map toString) (upstream.toolCall.map toString)
      (recorded.toolCall = upstream.toolCall)].filterMap id

/-! ## The reconciliation -/

section Reconcile

variable (display : Decimal → String)

/-- `upstream_tier_note`. -/
def upstreamTierNote (entry : SourceModel) : Option String :=
  entry.cost.bind fun cost =>
    let show_ (rate : Option Decimal) := rate.elim "-" display
    let notes := cost.tiers.map fun tier =>
      "≥" ++ toString tier.tier.size ++ " " ++ tier.tier.kind ++ ": " ++
        "/".intercalate [show_ tier.input, show_ tier.cacheRead, show_ tier.cacheWrite,
          show_ tier.output]
    if notes.isEmpty then none else some (", ".intercalate notes)

variable (settlesFree : TierCandidate → Bool) (unreconcilableReason : String → Option String)

/-- A row's bands. -/
def bands (entry : Option SourceModel) : List SourceCostTier :=
  ((entry.bind (·.cost)).map (·.tiers)).getD []

/-- What the comparison of a candidate with its row comes to. -/
def verdictOf (candidate : TierCandidate) (entry : Option SourceModel) : Verdict :=
  if candidate.rates.areZero && settlesFree candidate then .unreconcilable
  else if (unreconcilableReason candidate.provider).isSome then .notCoveredBySource
  else
    match entry with
    | none => .missing
    | some row =>
        if row.cost.isNone then .unpriced
        else if (bands entry).any fun tier => !tier.measuresPromptSize then .unsupportedTierKind
        else if !(bands entry).isEmpty && candidate.rates.isFlat then .tieredUpstream
        else if ratesAgree candidate.rates.base
            (((entry.bind (·.cost)).map (·.rates)).getD unstated) &&
            conditionalAgrees candidate.rates (bands entry) then .match_
        else .basisDrift

def pairs (conditional : List ConditionalRate) : List (Nat × ModelRates) :=
  conditional.map fun table => (table.minPromptTokens, table.rates)

variable (sourceProviderKey : String → Option String)

/-- A candidate's row: looked for under its own source key. -/
def rowOf (providers : SortedMap String SourceProvider) (candidate : TierCandidate) :
    Option (SourceModel × Option String) :=
  (providers.get? ((sourceProviderKey candidate.provider).getD candidate.provider)).bind
    fun provider => findRow provider.models candidate.model

/-- One candidate reconciled. -/
def reconcileOne (providers : SortedMap String SourceProvider) (tier : String)
    (definition : TierDefinition) (candidate : CatalogCandidate) : CandidateDrift :=
  let row := rowOf sourceProviderKey providers candidate.toTierCandidate
  let entry := row.map (·.1)
  let upstreamMetadata : ModelMetadata :=
    { contextWindow := (entry.bind (·.limit)).bind (·.context)
      maxOutputTokens := (entry.bind (·.limit)).bind (·.output)
      inputModalities := (entry.bind (·.modalities)).map (·.input)
      toolCall := entry.bind (·.toolCall) }
  { tier
    candidateId := candidate.id
    provider := candidate.provider
    model := candidate.model
    matchedAs := row.bind (·.2)
    verdict := verdictOf settlesFree unreconcilableReason candidate.toTierCandidate entry
    recordedBasis := candidate.rates.base
    recordedConditional := pairs candidate.rates.conditional
    upstreamCost := ((entry.bind (·.cost)).map (·.rates)).getD unstated
    upstreamConditional :=
      ((bands entry).filter (·.measuresPromptSize)).map fun tier => (tier.tier.size, tier.rates)
    sell := definition.rates.base
    sellConditional := pairs definition.rates.conditional
    recordedMetadata := candidate.metadata
    upstreamMetadata
    metadataDrift := metadataDrift candidate.metadata upstreamMetadata
    upstreamTier := entry.bind (upstreamTierNote display)
    unreconcilableReason := unreconcilableReason candidate.provider }

/-- The tiers reconciled, served ones first. -/
def definitions (catalog : TierCatalog) : List (String × TierDefinition) :=
  catalog.tiers.entries ++
    catalog.unavailable.entries.map fun entry => (entry.1, entry.2.definition)

/-- `reconcile_with`.  A document that does not parse lists no provider. -/
def reconcileWith (catalog : TierCatalog) (source : Option (SortedMap String SourceProvider)) :
    List CandidateDrift :=
  let providers := source.getD .empty
  (definitions catalog).flatMap fun entry =>
    entry.2.candidates.map
      (reconcileOne display settlesFree unreconcilableReason sourceProviderKey providers entry.1
        entry.2)

end Reconcile

end ZeroRouter.Drift
