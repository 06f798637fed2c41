import ZeroRouter.Drift
import ZeroRouter.Api.Schedule

/-!
# What a matching row says

Each candidate of every served and withheld tier has its one finding.  It reads as a match only
where the candidate's own row was found and what the row states is recorded, flat and band by band,
hence at every prompt size.  A cache write is the exception: it is compared only where the lane
declares a rate for it.
-/

namespace ZeroRouter.Drift

open Ordered Option

variable {row : SourceModel} {matchedAs : Option String} {recorded stated : Option Decimal}

/-! ## The row -/

/-- A row is the one listed under the first of a model's names that the provider lists: its own, the
    one without a date, and the one without a publisher. -/
inductive FoundAs (models : SortedMap String SourceModel) (model : String) (row : SourceModel) :
    Option String → Prop where
  | exact (listed : models.get? model = some row) : FoundAs models model row none
  | undated {base : String} (unlisted : models.get? model = none)
      (is_base : undated model = some base) (listed : models.get? base = some row) :
      FoundAs models model row (some base)
  | unpublished {bare : String} (unlisted : models.get? model = none)
      (undated_unlisted : (undated model).bind models.get? = none)
      (is_bare : unpublished model = some bare) (listed : models.get? bare = some row) :
      FoundAs models model row (some bare)

theorem foundAs_of_findRow {models : SortedMap String SourceModel} {model : String}
    (h : findRow models model = some (row, matchedAs)) : FoundAs models model row matchedAs := by
  unfold findRow at h
  cases own : models.get? model with
  | some entry =>
      rw [own] at h
      cases h
      exact .exact own
  | none =>
      rw [own] at h
      cases dated : (undated model).bind models.get? with
      | some entry =>
          rw [dated] at h
          cases h
          obtain ⟨base, is_base, listed⟩ := bind_eq_some_iff.mp dated
          rw [is_base]
          exact .undated own is_base listed
      | none =>
          rw [dated] at h
          obtain ⟨entry, found, is_row⟩ := map_eq_some_iff.mp h
          cases is_row
          obtain ⟨bare, is_bare, listed⟩ := bind_eq_some_iff.mp found
          rw [is_bare]
          exact .unpublished own dated is_bare listed

/-! ## What a comparison says -/

/-- A rate the source states is recorded, but for the noise of its last place. -/
def Within (recorded stated : Option Decimal) : Prop :=
  ∀ rate, stated = some rate → ∃ own, recorded = some own ∧ |own - rate| < epsilon

/-- Every rate a table states is recorded; a cache write's where the lane declares one. -/
structure Recorded (recorded stated : ModelRates) : Prop where
  input : Within recorded.inputPerMtok stated.inputPerMtok
  output : Within recorded.outputPerMtok stated.outputPerMtok
  cached : Within recorded.cachedInputPerMtok stated.cachedInputPerMtok
  write : ∀ own rate, recorded.cacheWritePerMtok = some own → stated.cacheWritePerMtok = some rate →
    |own - rate| < epsilon

theorem close_iff :
    close recorded stated = true ↔ Within recorded stated := by
  unfold Within
  cases recorded <;> cases stated <;> simp [close]

theorem closeIfBoth_iff :
    closeIfBoth recorded stated = true ↔
      ∀ own rate, recorded = some own → stated = some rate → |own - rate| < epsilon := by
  cases recorded <;> cases stated <;> simp [closeIfBoth]

theorem ratesAgree_iff {recorded stated : ModelRates} :
    ratesAgree recorded stated = true ↔ Recorded recorded stated := by
  unfold ratesAgree
  simp only [Bool.and_eq_true, close_iff, closeIfBoth_iff]
  constructor
  · rintro ⟨⟨⟨input, output⟩, cached⟩, write⟩
    exact ⟨input, output, cached, write⟩
  · rintro ⟨input, output, cached, write⟩
    exact ⟨⟨⟨input, output⟩, cached⟩, write⟩

/-- The schedule a row publishes. -/
def SourceCost.schedule (cost : SourceCost) : RateSchedule where
  base := cost.rates
  conditional := cost.tiers.map fun tier =>
    { minPromptTokens := tier.tier.size, rates := tier.rates }

/-- Bands that agree stand at the same sizes, in the same order. -/
theorem forall₂_of_conditionalAgrees {recorded : RateSchedule} {cost : SourceCost}
    (agrees : conditionalAgrees recorded cost.tiers = true) :
    List.Forall₂ (fun a b => a.minPromptTokens = b.minPromptTokens ∧ Recorded a.rates b.rates)
      recorded.conditional cost.schedule.conditional := by
  unfold conditionalAgrees at agrees
  rw [Bool.and_eq_true, decide_eq_true_eq] at agrees
  obtain ⟨same_length, all⟩ := agrees
  unfold SourceCost.schedule
  generalize recorded.conditional = own at same_length all
  generalize cost.tiers = tiers at same_length all
  induction own generalizing tiers with
  | nil =>
      rw [List.length_eq_zero_iff.mp same_length.symm]
      exact .nil
  | cons table own ih =>
      cases tiers with
      | nil => cases same_length
      | cons tier tiers =>
          rw [List.zip_cons_cons, List.all_cons, Bool.and_eq_true, Bool.and_eq_true,
            Bool.and_eq_true, decide_eq_true_eq, ratesAgree_iff] at all
          obtain ⟨⟨⟨-, same_size⟩, own_rates⟩, rest⟩ := all
          exact .cons ⟨same_size, own_rates⟩ (ih tiers (Nat.succ.inj same_length) rest)

/-! ## The verdict -/

section Verdict

variable {settlesFree : TierCandidate → Bool} {unreconcilableReason : String → Option String}
  {candidate : TierCandidate} {entry : Option SourceModel}

/-- A match was compared: its row has a price, its bands are on the prompt's size, and what it
    states at any size is recorded there. -/
theorem verdictOf_match
    (h : verdictOf settlesFree unreconcilableReason candidate entry = .match_) :
    ∃ row cost, entry = some row ∧ row.cost = some cost ∧
      (∀ tier ∈ cost.tiers, tier.measuresPromptSize = true) ∧
      ∀ promptTokens,
        Recorded (candidate.rates.atPromptTokens promptTokens)
          (cost.schedule.atPromptTokens promptTokens) := by
  unfold verdictOf at h
  split at h
  · cases h
  · split at h
    · cases h
    · cases entry with
      | none => cases h
      | some row =>
          dsimp only at h
          cases priced : row.cost with
          | none =>
              have unpriced : row.cost.isNone = true := by rw [priced]; rfl
              rw [if_pos unpriced] at h
              cases h
          | some cost =>
              have is_bands : bands (some row) = cost.tiers := by simp [bands, priced]
              have is_rates : ((((some row).bind (·.cost)).map (·.rates)).getD unstated) =
                  cost.rates := by simp [priced]
              have has_price : ¬ row.cost.isNone = true := by rw [priced]; exact Bool.false_ne_true
              rw [if_neg has_price, is_bands, is_rates] at h
              split at h
              · cases h
              · next on_size =>
                  split at h
                  · cases h
                  · split at h
                    · next agrees =>
                        rw [Bool.and_eq_true, ratesAgree_iff] at agrees
                        refine ⟨row, cost, rfl, priced, ?_, ?_⟩
                        · intro tier mem
                          by_contra other
                          exact on_size (List.any_eq_true.mpr ⟨tier, mem, by simpa using other⟩)
                        · exact RateSchedule.atPromptTokens_rel agrees.1
                            (forall₂_of_conditionalAgrees agrees.2)
                    · cases h

/-- A quiet verdict that is no match is an exemption: free of charge, declared, or a row without a
    price. -/
theorem verdictOf_quiet
    (quiet : (verdictOf settlesFree unreconcilableReason candidate entry).isActionable = false)
    (no_match : verdictOf settlesFree unreconcilableReason candidate entry ≠ .match_) :
    candidate.rates.areZero = true ∨ (unreconcilableReason candidate.provider).isSome = true ∨
      ∃ row, entry = some row ∧ row.cost = none := by
  unfold verdictOf at quiet no_match
  split at quiet
  · next free => exact .inl (Bool.and_eq_true _ _ ▸ free).1
  · next not_free =>
      rw [if_neg not_free] at no_match
      split at quiet
      · next declared => exact .inr (.inl declared)
      · next undeclared =>
          rw [if_neg undeclared] at no_match
          cases entry with
          | none => cases quiet
          | some row =>
              dsimp only at quiet no_match
              split at quiet
              · next unpriced => exact .inr (.inr ⟨row, rfl, isNone_iff_eq_none.mp unpriced⟩)
              · next priced =>
                  rw [if_neg priced] at no_match
                  split at quiet
                  · cases quiet
                  · next on_size =>
                      rw [if_neg on_size] at no_match
                      split at quiet
                      · cases quiet
                      · next comparable =>
                          rw [if_neg comparable] at no_match
                          split at quiet
                          · next agrees =>
                              rw [if_pos agrees] at no_match
                              exact absurd rfl no_match
                          · cases quiet

end Verdict

/-! ## The report -/

/-- The candidates of every tier, served ones first. -/
def candidatesOf (catalog : TierCatalog) : List (String × TierDefinition × CatalogCandidate) :=
  (definitions catalog).flatMap fun entry =>
    entry.2.candidates.map fun candidate => (entry.1, entry.2, candidate)

section Report

variable (display : Decimal → String) (settlesFree : TierCandidate → Bool)
  (unreconcilableReason sourceProviderKey : String → Option String)

/-- A finding is about one candidate of one tier. -/
structure About (entry : String × TierDefinition × CatalogCandidate) (found : CandidateDrift) :
    Prop where
  tier : found.tier = entry.1
  candidateId : found.candidateId = entry.2.2.id
  provider : found.provider = entry.2.2.provider
  model : found.model = entry.2.2.model
  basis : found.recordedBasis = entry.2.2.rates.base
  sell : found.sell = entry.2.1.rates.base

/-- The candidate's row, in a document that parses, under the provider's own key. -/
def RowIn (source : Option (SortedMap String SourceProvider)) (candidate : TierCandidate)
    (row : SourceModel) (matchedAs : Option String) : Prop :=
  ∃ providers provider, source = some providers ∧
    providers.get? ((sourceProviderKey candidate.provider).getD candidate.provider) =
      some provider ∧
    FoundAs provider.models candidate.model row matchedAs

/-- What a finding's verdict says of the candidate. -/
structure Says (source : Option (SortedMap String SourceProvider)) (candidate : TierCandidate)
    (found : CandidateDrift) : Prop where
  matches_ : found.verdict = .match_ →
    ∃ row cost, RowIn sourceProviderKey source candidate row found.matchedAs ∧
      row.cost = some cost ∧ (∀ tier ∈ cost.tiers, tier.measuresPromptSize = true) ∧
      ∀ promptTokens,
        Recorded (candidate.rates.atPromptTokens promptTokens)
          (cost.schedule.atPromptTokens promptTokens)
  quiet : found.verdict.isActionable = false → found.verdict ≠ .match_ →
    candidate.rates.areZero = false →
    (unreconcilableReason candidate.provider).isSome = true ∨
      ∃ row, RowIn sourceProviderKey source candidate row found.matchedAs ∧ row.cost = none

theorem rowIn_of_rowOf {source : Option (SortedMap String SourceProvider)}
    {candidate : TierCandidate}
    (h : rowOf sourceProviderKey (source.getD .empty) candidate = some (row, matchedAs)) :
    RowIn sourceProviderKey source candidate row matchedAs := by
  obtain ⟨provider, listed, found⟩ := bind_eq_some_iff.mp h
  cases source with
  | none =>
      rw [getD_none, SortedMap.get?_empty] at listed
      cases listed
  | some providers => exact ⟨providers, provider, rfl, listed, foundAs_of_findRow found⟩

theorem says_reconcileOne (source : Option (SortedMap String SourceProvider)) (tier : String)
    (definition : TierDefinition) (candidate : CatalogCandidate) :
    Says unreconcilableReason sourceProviderKey source candidate.toTierCandidate
      (reconcileOne display settlesFree unreconcilableReason sourceProviderKey
        (source.getD .empty) tier definition candidate) := by
  unfold reconcileOne
  generalize found : rowOf sourceProviderKey (source.getD .empty) candidate.toTierCandidate = row
  constructor
  · intro is_match
    obtain ⟨entry, cost, is_entry, priced, on_size, recorded⟩ := verdictOf_match is_match
    obtain ⟨⟨own, matchedAs⟩, is_row, rfl⟩ := map_eq_some_iff.mp is_entry
    subst is_row
    exact ⟨own, cost, rowIn_of_rowOf sourceProviderKey found, priced, on_size, recorded⟩
  · intro quiet no_match charged
    rcases verdictOf_quiet quiet no_match with free | declared | ⟨entry, is_entry, unpriced⟩
    · exact absurd (free.symm.trans charged) (by decide)
    · exact .inl declared
    · obtain ⟨⟨own, matchedAs⟩, is_row, rfl⟩ := map_eq_some_iff.mp is_entry
      subst is_row
      exact .inr ⟨own, rowIn_of_rowOf sourceProviderKey found, unpriced⟩

/-- One finding for each candidate of every served and withheld tier, in their order, and no verdict
    says more than was compared. -/
theorem reconcileWith_exact (catalog : TierCatalog)
    (source : Option (SortedMap String SourceProvider)) :
    List.Forall₂
      (fun entry found => About entry found ∧
        Says unreconcilableReason sourceProviderKey source entry.2.2.toTierCandidate found)
      (candidatesOf catalog)
      (reconcileWith display settlesFree unreconcilableReason sourceProviderKey catalog
        source) := by
  unfold candidatesOf reconcileWith
  induction definitions catalog with
  | nil => exact .nil
  | cons entry rest ih =>
      rw [List.flatMap_cons, List.flatMap_cons]
      refine List.rel_append ?_ ih
      rw [List.forall₂_map_left_iff, List.forall₂_map_right_iff, List.forall₂_same]
      exact fun candidate _ => ⟨⟨rfl, rfl, rfl, rfl, rfl, rfl⟩,
        says_reconcileOne display settlesFree unreconcilableReason sourceProviderKey source entry.1
          entry.2 candidate⟩

end Report

/-! ## What it does not say -/

/-- A lane that sells at three and fifteen dollars, and declares no cache rates. -/
def plainLane : CatalogCandidate where
  id := "acme/one"
  provider := "acme"
  model := "one"
  surface := none
  rates := .flat ⟨some 3, some 15, none, none⟩
  metadata := .unknown

def plainCatalog : TierCatalog :=
  TierFile.catalog
    { schemaVersion := 1
      tiers := .ofList [("acme/one", ⟨[plainLane], plainLane.rates, none⟩)]
      retention := .empty }

/-- A document that lists the lane's model at a price. -/
def listing (cost : SourceCost) : SortedMap String SourceProvider :=
  .ofList [("acme", ⟨.ofList [("one", ⟨some cost, none, none, none⟩)]⟩)]

/-- The lane's price, with a price for cache writes. -/
def cacheWriteCost : SourceCost := ⟨some 3, some 15, none, some (15 / 4), []⟩

/-- A price that states nothing. -/
def silentCost : SourceCost := ⟨none, none, none, none, []⟩

def plainVerdicts (cost : SourceCost) : List Verdict :=
  (reconcileWith (fun _ => "") (fun _ => false) (fun _ => none) (fun _ => none) plainCatalog
    (some (listing cost))).map (·.verdict)

/-- A row that prices cache writes apart reads as a match for a lane that bills them as input, and a
    row that states no rate as one for any lane. -/
theorem plainVerdicts_match :
    plainVerdicts cacheWriteCost = [.match_] ∧
      (plainLane.rates.atPromptTokens 0).effectiveCacheWritePerMtok ≠
        (cacheWriteCost.schedule.atPromptTokens 0).effectiveCacheWritePerMtok ∧
      plainVerdicts silentCost = [.match_] ∧
      (silentCost.input = none ∧ silentCost.output = none) := by
  refine ⟨by decide +kernel, by decide +kernel, by decide +kernel, rfl, rfl⟩

end ZeroRouter.Drift
