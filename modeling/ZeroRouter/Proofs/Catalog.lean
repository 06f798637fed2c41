import ZeroRouter.Config.Routes
import Mathlib.Data.List.Dedup
import Mathlib.Data.List.Flatten

/-!
# What a loaded catalog is known to satisfy

Each check of `validate_tier_catalog` is inverted once, the candidate loop and the
tier loop by induction on what they have walked; a tier the loaded catalog serves is
one whose structural and economic checks all passed.
-/

namespace ZeroRouter

open List Ordered Relational

variable {tier bare : String} {definition : TierDefinition} {candidate : CatalogCandidate}
  {before after : Validation} {member : Member} {dimension : String} {sell : RateSchedule}
  {candidates : List CatalogCandidate} {definition' : TierDefinition} {members : List Member}
  {unified : UnifiedModel}

/-! ## The checks inverted -/

theorem validateRate_ok {rate : Option Decimal} {required : Bool}
    (h : validateRate tier dimension rate required = .ok ()) :
    (required = true → ∃ r, rate = some r) ∧ Billable rate := by
  unfold validateRate at h
  obtain ⟨_, hdeclared, hbillable⟩ := bind_eq_ok.mp h
  rw [ensure_eq_ok] at hdeclared
  cases rate with
  | none =>
      refine ⟨?_, fun r hr => by cases hr⟩
      intro hrequired
      simp [hrequired] at hdeclared
  | some value =>
      refine ⟨fun _ => ⟨value, rfl⟩, ?_⟩
      intro r hr
      cases hr
      by_cases hvalue : 0 ≤ value ∧ value ≤ maxRatePerMtok
      · exact hvalue
      · have : billableRate value = none := by rw [billableRate, if_neg hvalue]
        simp only [Option.filter_some, this, Option.isNone_none, if_true] at hbillable
        cases hbillable

theorem validateRates_ok {rates : ModelRates} (h : validateRates tier rates = .ok ()) :
    rates.Valid := by
  unfold validateRates at h
  obtain ⟨_, hinput, hrest⟩ := bind_eq_ok.mp h
  obtain ⟨_, houtput, hoptional⟩ := bind_eq_ok.mp hrest
  obtain ⟨_, hcached, hwrite⟩ := bind_eq_ok.mp hoptional
  exact ⟨(validateRate_ok hinput).1 rfl, (validateRate_ok houtput).1 rfl,
    (validateRate_ok hinput).2, (validateRate_ok houtput).2, (validateRate_ok hcached).2,
    (validateRate_ok hwrite).2⟩

theorem validateRateSchedule_ok {schedule : RateSchedule}
    (h : validateRateSchedule tier schedule = .ok ()) : schedule.Valid := by
  unfold validateRateSchedule at h
  obtain ⟨_, hbase, hrest⟩ := bind_eq_ok.mp h
  obtain ⟨_, -, hbands⟩ := bind_eq_ok.mp hrest
  rw [checkAll_eq_ok] at hbands
  intro table htable
  rcases mem_cons.mp htable with rfl | htable
  · exact validateRates_ok hbase
  · obtain ⟨conditional, hconditional, rfl⟩ := mem_map.mp htable
    exact validateRates_ok (hbands conditional hconditional)

theorem mem_marginProbes {basis : RateSchedule} {size : Nat} :
    size ∈ marginProbes sell basis ↔
      size = 0 ∨ size ∈ basis.thresholds ∨ size ∈ sell.thresholds := by
  unfold marginProbes
  rw [mem_dedup, mem_insertionSort]
  simp

/-- A dimension both sides have is one the basis does not exceed the sell rate in. -/
theorem validateMarginDimension_ok {candidate : String} {probe : Nat}
    {basis sell : Option Decimal} {b s : Decimal}
    (h : validateMarginDimension tier candidate probe (dimension, basis, sell) = .ok ())
    (hbasis : basis = some b) (hsell : sell = some s) : basis.getD 0 ≤ sell.getD 0 := by
  subst hbasis hsell
  simpa [validateMarginDimension] using h

/-- The margin at every probed size is the margin at every size. -/
theorem validateCandidateMargin_ok (h : validateCandidateMargin tier sell candidate = .ok ())
    (hsell : sell.Valid) (hbasis : candidate.rates.Valid) (promptTokens : Nat) :
    (candidate.rates.atPromptTokens promptTokens).AtMost (sell.atPromptTokens promptTokens) := by
  unfold validateCandidateMargin at h
  rw [checkAll_eq_ok] at h
  refine RateSchedule.atPromptTokens_of_probes (mem_marginProbes.mpr (.inl rfl))
    (fun size hsize => mem_marginProbes.mpr (.inr (.inl hsize)))
    (fun size hsize => mem_marginProbes.mpr (.inr (.inr hsize))) ?_ promptTokens
  intro probe hprobe
  have hdimensions := h probe hprobe
  rw [checkAll_eq_ok] at hdimensions
  have own := hbasis.atPromptTokens probe
  have other := hsell.atPromptTokens probe
  obtain ⟨_, hinput⟩ := own.input
  obtain ⟨_, hinput'⟩ := other.input
  obtain ⟨_, houtput⟩ := own.output
  obtain ⟨_, houtput'⟩ := other.output
  obtain ⟨_, hcached⟩ := own.effectiveCached
  obtain ⟨_, hcached'⟩ := other.effectiveCached
  obtain ⟨_, hwrite⟩ := own.effectiveWrite
  obtain ⟨_, hwrite'⟩ := other.effectiveWrite
  refine ⟨?_, ?_, ?_, ?_⟩
  · exact validateMarginDimension_ok (hdimensions _ mem_cons_self) hinput hinput'
  · exact validateMarginDimension_ok (hdimensions _ (mem_cons_of_mem _ mem_cons_self))
      houtput houtput'
  · exact validateMarginDimension_ok
      (hdimensions _ (mem_cons_of_mem _ (mem_cons_of_mem _ mem_cons_self)))
      hcached hcached'
  · exact validateMarginDimension_ok
      (hdimensions _ (mem_cons_of_mem _
        (mem_cons_of_mem _ (mem_cons_of_mem _ mem_cons_self))))
      hwrite hwrite'

theorem validateEconomics_ok (h : validateEconomics tier definition candidate = .ok ()) :
    validateCandidateMargin tier definition.rates candidate = .ok () := by
  unfold validateEconomics at h
  obtain ⟨_, hmargin, -⟩ := bind_eq_ok.mp h
  exact hmargin

/-! ## The loops -/

section Loops

variable {inventory : DeclaredInventory} {isDate : String → Bool} {file : TierFile}

/-- What the structural checks of one candidate leave true. -/
structure CandidateChecked (inventory : DeclaredInventory) (file : TierFile)
    (definition : TierDefinition) (candidate : CatalogCandidate) : Prop where
  notReserved : startsWith "zero/" candidate.id = false
  supported : inventory.isSupportedProvider candidate.provider = true
  labelled : ∃ pin,
    definition.retention.or (file.retention.get? candidate.provider) = some pin
  rates : candidate.rates.Valid
  zeroPrice : candidate.rates.anyRequiredRatesAreZero = true →
    inventory.providerSettlesFree candidate.provider = true

theorem validateCandidateShape_ok (h : validateCandidateShape inventory tier candidate = .ok ()) :
    startsWith "zero/" candidate.id = false ∧
      inventory.isSupportedProvider candidate.provider = true := by
  unfold validateCandidateShape at h
  obtain ⟨_, hshape, hsecond⟩ := bind_eq_ok.mp h
  obtain ⟨_, -, hthird⟩ := bind_eq_ok.mp hsecond
  obtain ⟨_, hsupported, -⟩ := bind_eq_ok.mp hthird
  rw [ensure_eq_ok] at hshape hsupported
  refine ⟨?_, hsupported⟩
  by_contra hreserved
  exact hshape (.inr (.inl (by simpa using hreserved)))

theorem validateCandidateClaims_ok
    (h : validateCandidateClaims inventory file tier definition candidate = .ok ()) :
    (∃ pin, definition.retention.or (file.retention.get? candidate.provider) = some pin) ∧
      candidate.rates.Valid ∧
      (candidate.rates.anyRequiredRatesAreZero = true →
        inventory.providerSettlesFree candidate.provider = true) := by
  unfold validateCandidateClaims at h
  obtain ⟨_, hlabelled, hsecond⟩ := bind_eq_ok.mp h
  obtain ⟨_, hrates, hthird⟩ := bind_eq_ok.mp hsecond
  obtain ⟨_, -, hzero⟩ := bind_eq_ok.mp hthird
  rw [ensure_eq_ok] at hlabelled
  refine ⟨?_, validateRateSchedule_ok hrates, ?_⟩
  · cases hoverride : definition.retention with
    | some pin => exact ⟨pin, rfl⟩
    | none =>
        have : file.retention.contains candidate.provider = true := by
          simpa [hoverride] using hlabelled
        obtain ⟨pin, hpin⟩ := SortedMap.contains_eq_true.mp this
        exact ⟨pin, by rw [hpin, Option.none_or]⟩
  · intro hzeroes
    unfold validateZeroPrice at hzero
    rw [ensure_eq_ok] at hzero
    simpa [hzeroes] using hzero

/-- What one pass of the candidate loop checks and changes. -/
structure CandidatePass (inventory : DeclaredInventory) (file : TierFile) (tier : String)
    (definition : TierDefinition) (candidates : List CatalogCandidate)
    (before after : Validation) : Prop where
  checked : ∀ candidate ∈ candidates, CandidateChecked inventory file definition candidate
  ids : after.concreteIds = (candidates.map (·.id)).reverse ++ before.concreteIds
  distinct : before.concreteIds.Nodup → after.concreteIds.Nodup
  others : ∀ other, other ≠ tier → after.withheld.get? other = before.withheld.get? other
  kept : after.withheld.get? tier = none → before.withheld.get? tier = none ∧
    ∀ candidate ∈ candidates, validateEconomics tier definition candidate = .ok ()

theorem validateCandidate_ok
    (h : validateCandidate inventory file tier definition before candidate = .ok after) :
    CandidatePass inventory file tier definition [candidate] before after := by
  unfold validateCandidate at h
  obtain ⟨_, hshape, hsecond⟩ := bind_eq_ok.mp h
  obtain ⟨_, hnew, hthird⟩ := bind_eq_ok.mp hsecond
  obtain ⟨_, hclaims, hlast⟩ := bind_eq_ok.mp hthird
  rw [ensure_eq_ok] at hnew
  obtain ⟨hreserved, hsupported⟩ := validateCandidateShape_ok hshape
  obtain ⟨hlabelled, hrates, hzero⟩ := validateCandidateClaims_ok hclaims
  have hchecked : ∀ other ∈ [candidate], CandidateChecked inventory file definition other := by
    intro other hother
    rw [mem_singleton.mp hother]
    exact ⟨hreserved, hsupported, hlabelled, hrates, hzero⟩
  cases heconomics : validateEconomics tier definition candidate with
  | ok =>
      simp only [heconomics, Except.ok.injEq] at hlast
      subst hlast
      exact ⟨hchecked, by simp, fun hdistinct => nodup_cons.mpr ⟨hnew, hdistinct⟩,
        fun _ _ => rfl, fun hnone => ⟨hnone, by simpa using heconomics⟩⟩
  | error error =>
      simp only [heconomics, Except.ok.injEq] at hlast
      subst hlast
      refine ⟨hchecked, by simp, fun hdistinct => nodup_cons.mpr ⟨hnew, hdistinct⟩, ?_, ?_⟩
      · intro other hother
        simp [SortedMap.get?_insertNew, Ne.symm hother]
      · intro hnone
        simp [SortedMap.get?_insertNew] at hnone

theorem CandidatePass.append {first rest : List CatalogCandidate} {middle : Validation}
    (h : CandidatePass inventory file tier definition first before middle)
    (h' : CandidatePass inventory file tier definition rest middle after) :
    CandidatePass inventory file tier definition (first ++ rest) before after where
  checked := by
    intro candidate hcandidate
    rcases mem_append.mp hcandidate with hmem | hmem
    · exact h.checked candidate hmem
    · exact h'.checked candidate hmem
  ids := by rw [h'.ids, h.ids]; simp
  distinct := fun hdistinct => h'.distinct (h.distinct hdistinct)
  others := fun other hother => (h'.others other hother).trans (h.others other hother)
  kept := by
    intro hnone
    obtain ⟨hmiddle, hrest⟩ := h'.kept hnone
    obtain ⟨hbefore, hfirst⟩ := h.kept hmiddle
    refine ⟨hbefore, ?_⟩
    intro candidate hcandidate
    rcases mem_append.mp hcandidate with hmem | hmem
    · exact hfirst candidate hmem
    · exact hrest candidate hmem

/-- The candidate loop is its passes one after another. -/
theorem validateCandidates_ok
    (h : candidates.foldlM (validateCandidate inventory file tier definition) before = .ok after) :
    CandidatePass inventory file tier definition candidates before after := by
  induction candidates generalizing before with
  | nil =>
      cases h
      exact ⟨by simp, by simp, id, fun _ _ => rfl, fun hnone => ⟨hnone, by simp⟩⟩
  | cons candidate rest ih =>
      rw [foldlM_cons] at h
      obtain ⟨middle, hfirst, hrest⟩ := bind_eq_ok.mp h
      exact (validateCandidate_ok hfirst).append (ih hrest)

/-- What the checks of one tier leave true. -/
structure TierChecked (inventory : DeclaredInventory) (file : TierFile) (tier : String)
    (definition : TierDefinition) : Prop where
  named : startsWith "zero/" tier = true ∨ ∃ candidate ∈ definition.candidates, candidate.id = tier
  nonempty : definition.candidates ≠ []
  rates : definition.rates.Valid
  candidates : ∀ candidate ∈ definition.candidates,
    CandidateChecked inventory file definition candidate

theorem validateTierShape_ok (h : validateTierShape isDate tier definition = .ok ()) :
    (startsWith "zero/" tier = true ∨
        ∃ candidate ∈ definition.candidates, candidate.id = tier) ∧
      definition.candidates ≠ [] ∧ definition.rates.Valid := by
  unfold validateTierShape at h
  obtain ⟨_, -, hsecond⟩ := bind_eq_ok.mp h
  obtain ⟨_, hnamed, hthird⟩ := bind_eq_ok.mp hsecond
  obtain ⟨_, -, hfourth⟩ := bind_eq_ok.mp hthird
  obtain ⟨_, hnonempty, hrates⟩ := bind_eq_ok.mp hfourth
  rw [ensure_eq_ok] at hnamed hnonempty
  refine ⟨?_, by simpa using hnonempty, validateRateSchedule_ok hrates⟩
  rcases hnamed with hnamed | hnamed
  · exact .inl hnamed.1
  · exact .inr (by simpa using hnamed)

/-- What the tier loop has established of the tiers it walked. -/
structure TierPass (inventory : DeclaredInventory) (file : TierFile)
    (tiers : List (String × TierDefinition)) (before after : Validation) : Prop where
  checked : ∀ entry ∈ tiers, TierChecked inventory file entry.1 entry.2
  ids : after.concreteIds =
    ((tiers.flatMap (·.2.candidates)).map (·.id)).reverse ++ before.concreteIds
  distinct : before.concreteIds.Nodup → after.concreteIds.Nodup
  others : ∀ other, other ∉ tiers.map (·.1) →
    after.withheld.get? other = before.withheld.get? other
  kept : (tiers.map (·.1)).Nodup → ∀ entry ∈ tiers, after.withheld.get? entry.1 = none →
    ∀ candidate ∈ entry.2.candidates, validateEconomics entry.1 entry.2 candidate = .ok ()

theorem validateTiers_ok {tiers : List (String × TierDefinition)}
    (h : tiers.foldlM (validateTier inventory isDate file) before = .ok after) :
    TierPass inventory file tiers before after := by
  induction tiers generalizing before with
  | nil =>
      cases h
      exact ⟨by simp, by simp, id, fun _ _ => rfl, by simp⟩
  | cons entry rest ih =>
      rw [foldlM_cons] at h
      obtain ⟨middle, hentry, hrest⟩ := bind_eq_ok.mp h
      unfold validateTier at hentry
      obtain ⟨_, hshape, hcandidates⟩ := bind_eq_ok.mp hentry
      obtain ⟨hnamed, hnonempty, hrates⟩ := validateTierShape_ok hshape
      have first := validateCandidates_ok hcandidates
      have later := ih hrest
      refine ⟨?_, ?_, fun hdistinct => later.distinct (first.distinct hdistinct), ?_, ?_⟩
      · intro other hother
        rcases mem_cons.mp hother with rfl | hother
        · exact ⟨hnamed, hnonempty, hrates, first.checked⟩
        · exact later.checked other hother
      · rw [later.ids, first.ids]
        simp
      · intro other hother
        rw [map_cons, mem_cons, not_or] at hother
        rw [later.others other hother.2, first.others other hother.1]
      · intro hnodup other hother hnone
        rw [map_cons, nodup_cons] at hnodup
        rcases mem_cons.mp hother with rfl | hother
        · -- No later tier of another id touches this one's reason.
          rw [later.others _ hnodup.1] at hnone
          exact (first.kept hnone).2
        · exact later.kept hnodup.2 other hother hnone

end Loops

/-! ## The loaded catalog -/

/-- What is known of the tiers a loaded catalog serves. -/
structure TierCatalog.Loaded (inventory : DeclaredInventory) (catalog : TierCatalog) : Prop where
  checked : ∀ tier definition, catalog.tiers.get? tier = some definition →
    TierChecked inventory catalog.toTierFile tier definition
  economics : ∀ tier definition, catalog.tiers.get? tier = some definition →
    ∀ candidate ∈ definition.candidates, validateEconomics tier definition candidate = .ok ()
  distinct : ((catalog.tiers.values.flatMap (·.candidates)).map (·.id)).Nodup

namespace TierCatalog

theorem withholdOne_tiers (catalog : TierCatalog) (entry : String × TierConfigError) :
    (catalog.withholdOne entry).tiers.entries =
      catalog.tiers.entries.filter fun tier => tier.1 ≠ entry.1 := by
  unfold withholdOne
  cases h : catalog.tiers.get? entry.1 with
  | some definition => rfl
  | none =>
      refine (filter_eq_self.mpr ?_).symm
      intro tier htier
      simp only [ne_eq, decide_not, Bool.not_eq_true', decide_eq_false_iff_not]
      intro heq
      have := SortedMap.mem_entries_iff.mp (show (tier.1, tier.2) ∈ catalog.tiers.entries from htier)
      rw [heq, h] at this
      cases this

theorem withholdOne_retention (catalog : TierCatalog) (entry : String × TierConfigError) :
    (catalog.withholdOne entry).retention = catalog.retention := by
  unfold withholdOne
  cases catalog.tiers.get? entry.1 <;> rfl

/-- Withholding removes the tiers it has a reason for and no other. -/
theorem withhold_foldl (reasons : List (String × TierConfigError)) (catalog : TierCatalog) :
    (reasons.foldl withholdOne catalog).tiers.entries =
        catalog.tiers.entries.filter (fun tier => tier.1 ∉ reasons.map (·.1)) ∧
      (reasons.foldl withholdOne catalog).retention = catalog.retention := by
  induction reasons generalizing catalog with
  | nil => simp
  | cons entry rest ih =>
      obtain ⟨htiers, hretention⟩ := ih (catalog.withholdOne entry)
      rw [foldl_cons]
      refine ⟨?_, hretention.trans (catalog.withholdOne_retention entry)⟩
      rw [htiers, withholdOne_tiers, filter_filter]
      apply filter_congr
      intro tier _
      by_cases hentry : tier.1 = entry.1 <;> simp [hentry]

theorem withhold_retention (catalog : TierCatalog) (reasons : SortedMap String TierConfigError) :
    (catalog.withhold reasons).retention = catalog.retention :=
  (withhold_foldl reasons.entries catalog).2

theorem withhold_get? (catalog : TierCatalog) (reasons : SortedMap String TierConfigError) :
    (catalog.withhold reasons).tiers.get? tier = some definition ↔
      catalog.tiers.get? tier = some definition ∧ reasons.get? tier = none := by
  unfold withhold
  rw [← SortedMap.mem_entries_iff, ← SortedMap.mem_entries_iff,
    (withhold_foldl reasons.entries catalog).1, mem_filter, decide_eq_true_eq]
  have : tier ∉ reasons.entries.map (·.1) ↔ reasons.get? tier = none := by
    rw [← not_iff_not, not_not, ← ne_eq, Option.ne_none_iff_exists']
    simp [← SortedMap.mem_entries_iff]
  rw [this]

theorem withhold_sublist (catalog : TierCatalog) (reasons : SortedMap String TierConfigError) :
    (catalog.withhold reasons).tiers.values.Sublist catalog.tiers.values := by
  unfold withhold SortedMap.values
  rw [(withhold_foldl reasons.entries catalog).1]
  exact filter_sublist.map _

end TierCatalog

/-- The reasons a validated file is withheld for. -/
theorem validateTierCatalog_ok {inventory : DeclaredInventory} {isDate : String → Bool}
    {file : TierFile} {withheld : SortedMap String TierConfigError}
    (h : validateTierCatalog inventory isDate file = .ok withheld) :
    ∃ ids, TierPass inventory file file.tiers.entries
      { concreteIds := [], withheld := .empty } { concreteIds := ids, withheld } := by
  unfold validateTierCatalog at h
  obtain ⟨_, -, hsecond⟩ := bind_eq_ok.mp h
  obtain ⟨_, -, hthird⟩ := bind_eq_ok.mp hsecond
  obtain ⟨state, hstate, hlast⟩ := bind_eq_ok.mp hthird
  have pass := validateTiers_ok hstate
  have hwithheld : withheld = state.withheld := by
    by_cases hall : state.withheld.entries.length = file.tiers.entries.length
    · rw [if_pos hall] at hlast
      cases hentries : state.withheld.entries with
      | nil =>
          simp only [hentries, Except.ok.injEq] at hlast
          subst hlast
          cases hstate' : state.withheld
          simp_all [SortedMap.empty]
      | cons entry rest => simp [hentries] at hlast
    · rw [if_neg hall, Except.ok.injEq] at hlast
      exact hlast.symm
  rw [hwithheld]
  exact ⟨state.concreteIds, pass⟩

section Load

variable {inventory : DeclaredInventory} {isDate : String → Bool} {file : TierFile}
  {catalog : TierCatalog}

/-- What loading serves is what it validated and did not withhold. -/
theorem loadTierCatalog_ok (h : loadTierCatalog inventory isDate file = .ok catalog) :
    catalog.Loaded inventory ∧ catalog.unified = catalog.groups.filterMap TierCatalog.unify := by
  unfold loadTierCatalog at h
  obtain ⟨withheld, hvalid, hcatalog⟩ := bind_eq_ok.mp h
  cases hcatalog
  obtain ⟨ids, pass⟩ := validateTierCatalog_ok hvalid
  refine ⟨⟨?_, ?_, ?_⟩, rfl⟩
  · intro tier definition hget
    have hfile := ((file.catalog.withhold_get? withheld).mp hget).1
    have hchecked := pass.checked (tier, definition) (SortedMap.mem_entries_iff.mpr hfile)
    refine ⟨hchecked.named, hchecked.nonempty, hchecked.rates, ?_⟩
    intro candidate hcandidate
    obtain ⟨hreserved, hsupported, ⟨pin, hpin⟩, hrates, hzero⟩ :=
      hchecked.candidates candidate hcandidate
    refine ⟨hreserved, hsupported, ⟨pin, ?_⟩, hrates, hzero⟩
    have : (file.catalog.withhold withheld).synthesizeUnified.retention = file.retention :=
      file.catalog.withhold_retention withheld
    rw [this]
    exact hpin
  · intro tier definition hget
    obtain ⟨hfile, hnone⟩ := (file.catalog.withhold_get? withheld).mp hget
    exact pass.kept file.tiers.nodup_keys (tier, definition) (SortedMap.mem_entries_iff.mpr hfile)
      hnone
  · have hnodup := pass.distinct .nil
    rw [pass.ids] at hnodup
    have hall : ((file.tiers.values.flatMap (·.candidates)).map (·.id)).Nodup := by
      rw [append_nil, List.Nodup, pairwise_reverse] at hnodup
      have hnodup := hnodup.imp Ne.symm
      simpa [SortedMap.values, flatMap_map, List.Nodup] using hnodup
    refine List.Nodup.sublist ?_ hall
    exact ((file.catalog.withhold_sublist withheld).flatMap _ |>.map _)

end Load

/-! ## Ids and postures -/

namespace TierCatalog

variable {inventory : DeclaredInventory} {catalog : TierCatalog}

/-- A candidate id is in one tier of the catalog only, and there once. -/
theorem Loaded.unique (loaded : catalog.Loaded inventory) {tier' : String}
    (hget : catalog.tiers.get? tier = some definition)
    (hget' : catalog.tiers.get? tier' = some definition') {candidate' : CatalogCandidate}
    (hmem : candidate ∈ definition.candidates) (hmem' : candidate' ∈ definition'.candidates)
    (hid : candidate.id = candidate'.id) : definition = definition' ∧ candidate = candidate' := by
  have hdistinct := loaded.distinct
  rw [map_flatMap, nodup_flatMap] at hdistinct
  obtain ⟨within, between⟩ := hdistinct
  have hvalue := SortedMap.mem_values_iff.mpr ⟨tier, hget⟩
  have hvalue' := SortedMap.mem_values_iff.mpr ⟨tier', hget'⟩
  have hsame : definition = definition' := by
    by_contra hne
    have symm : Std.Symm (Function.onFun List.Disjoint fun definition : TierDefinition =>
        definition.candidates.map (·.id)) := ⟨fun _ _ h => h.symm⟩
    have := between.forall hvalue hvalue' hne
    apply this (mem_map_of_mem hmem)
    rw [hid]
    exact mem_map_of_mem hmem'
  subst hsame
  exact ⟨rfl, inj_on_of_nodup_map (within definition hvalue) hmem hmem' hid⟩

theorem Loaded.ids_nodup (loaded : catalog.Loaded inventory)
    (hget : catalog.tiers.get? tier = some definition) :
    (definition.candidates.map (·.id)).Nodup := by
  have hdistinct := loaded.distinct
  rw [map_flatMap, nodup_flatMap] at hdistinct
  exact hdistinct.1 definition (SortedMap.mem_values_iff.mpr ⟨tier, hget⟩)

/-- Every candidate of a served tier has a posture. -/
theorem Loaded.labelled (loaded : catalog.Loaded inventory)
    (hget : catalog.tiers.get? tier = some definition) (hmem : candidate ∈ definition.candidates) :
    ∃ pin, catalog.candidateRetention definition candidate = some pin :=
  ((loaded.checked tier definition hget).candidates candidate hmem).labelled

/-- A tier whose id is a candidate's is that candidate's own tier. -/
theorem Loaded.tier_of_candidate (loaded : catalog.Loaded inventory)
    (hget : catalog.tiers.get? tier = some definition) (hmem : candidate ∈ definition.candidates)
    (hget' : catalog.tiers.get? candidate.id = some definition') : definition' = definition := by
  rcases (loaded.checked _ _ hget').named with hreserved | ⟨named, hnamed, hid⟩
  · have := ((loaded.checked _ _ hget).candidates candidate hmem).notReserved
    rw [hreserved] at this
    cases this
  · exact (loaded.unique hget hget' hmem hnamed hid.symm).1.symm

/-- The posture a route carries for one of its candidates is the one its tier gives it. -/
theorem routeRetention_get? (definition : TierDefinition)
    (distinct : (candidates.map (·.id)).Nodup) (hmem : candidate ∈ candidates) :
    (catalog.routeRetention definition candidates).get? candidate.id =
      (catalog.candidateRetention definition candidate).map (·.posture) := by
  have hkeys : ((candidates.filterMap fun candidate =>
      (catalog.candidateRetention definition candidate).map fun pin =>
        (candidate.id, pin.posture)).map (·.1)).Nodup := by
    refine distinct.sublist ?_
    clear hmem distinct
    induction candidates with
    | nil => simp
    | cons first rest ih =>
        rw [filterMap_cons]
        cases catalog.candidateRetention definition first with
        | none => exact ih.cons _
        | some pin => exact ih.cons_cons _
  apply Option.ext
  intro posture
  unfold routeRetention
  rw [SortedMap.get?_ofList hkeys, mem_filterMap, Option.map_eq_some_iff]
  constructor
  · rintro ⟨other, hother, hentry⟩
    obtain ⟨pin, hpin, hentry⟩ := Option.map_eq_some_iff.mp hentry
    rw [Prod.mk.injEq] at hentry
    rw [inj_on_of_nodup_map distinct hother hmem hentry.1] at hpin
    exact ⟨pin, hpin, hentry.2⟩
  · rintro ⟨pin, hpin, rfl⟩
    exact ⟨candidate, hmem, by rw [hpin, Option.map_some]⟩

/-- A tier's id resolves to the whole tier. -/
theorem Loaded.resolve_tier (loaded : catalog.Loaded inventory)
    (hget : catalog.tiers.get? tier = some definition) :
    catalog.resolve tier = some (catalog.tierRoute tier definition) := by
  unfold resolve
  have hfilter : (catalog.tiers.get? tier).filter (fun tier => !tier.candidates.isEmpty) =
      some definition := by
    rw [hget, Option.filter_some, if_pos]
    simpa using (loaded.checked _ _ hget).nonempty
  rw [hfilter]

/-- A candidate's id that is no tier's resolves to that candidate alone. -/
theorem Loaded.resolve_candidate (loaded : catalog.Loaded inventory)
    (hget : catalog.tiers.get? tier = some definition) (hmem : candidate ∈ definition.candidates)
    (hnone : catalog.tiers.get? candidate.id = none) :
    catalog.resolve candidate.id =
      some (catalog.candidateRoute candidate.id definition candidate) := by
  unfold resolve
  rw [hnone, Option.filter_none]
  show catalog.tiers.values.findSome? _ = _
  cases hfound : catalog.tiers.values.findSome? fun definition =>
      (definition.candidates.find? fun other => other.id = candidate.id).map
        (catalog.candidateRoute candidate.id definition) with
  | none =>
      have hhere := findSome?_eq_none_iff.mp hfound definition
        (SortedMap.mem_values_iff.mpr ⟨tier, hget⟩)
      rw [Option.map_eq_none_iff, find?_eq_none] at hhere
      exact absurd (by simp) (hhere candidate hmem)
  | some route =>
      obtain ⟨definition', hvalue, hroute⟩ := exists_of_findSome?_eq_some hfound
      obtain ⟨tier', hget'⟩ := SortedMap.mem_values_iff.mp hvalue
      obtain ⟨other, hother, rfl⟩ := Option.map_eq_some_iff.mp hroute
      have hid : other.id = candidate.id := by simpa using find?_some hother
      obtain ⟨rfl, rfl⟩ := loaded.unique hget' hget (mem_of_find?_eq_some hother) hmem hid
      rfl

end TierCatalog

/-! ## The unified names -/

namespace TierCatalog

variable {catalog : TierCatalog}

/-- A member of a bare name is a served candidate whose id ends in exactly that name. -/
structure IsMember (catalog : TierCatalog) (bare : String) (member : Member) (tier : String)
    (definition : TierDefinition) : Prop where
  served : catalog.tiers.get? tier = some definition
  candidate : member.candidate ∈ definition.candidates
  named : catalog.bareName member.candidate.id = some bare
  sells : member.sellRates = definition.rates
  posture : ∃ pin, catalog.candidateRetention definition member.candidate = some pin ∧
    pin.posture = member.posture

theorem mem_members (h : (bare, member) ∈ catalog.members definition) :
    member.candidate ∈ definition.candidates ∧
      catalog.bareName member.candidate.id = some bare ∧ member.sellRates = definition.rates ∧
      ∃ pin, catalog.candidateRetention definition member.candidate = some pin ∧
        pin.posture = member.posture := by
  unfold members at h
  obtain ⟨candidate, hcandidate, hmade⟩ := mem_filterMap.mp h
  simp only [Option.bind_eq_bind, Option.bind_eq_some_iff, Option.pure_def, Option.some.injEq,
    Prod.mk.injEq] at hmade
  obtain ⟨name, hname, pin, hpin, rfl, rfl⟩ := hmade
  exact ⟨hcandidate, hname, rfl, pin, hpin, rfl⟩

theorem mem_group {group : List Member} (h : catalog.groups.get? bare = some group)
    (hmember : member ∈ group) :
    ∃ tier definition, catalog.IsMember bare member tier definition := by
  have hgroup : (catalog.groups.get? bare).getD [] = [] ++
      ((catalog.tiers.values.flatMap catalog.members).filter (·.1 = bare)).map (·.2) :=
    SortedMap.get?_foldl_push _ .empty bare
  rw [h, Option.getD_some, nil_append] at hgroup
  rw [hgroup] at hmember
  obtain ⟨⟨name, own⟩, hfiltered, rfl⟩ := mem_map.mp hmember
  obtain ⟨hcontributed, hname⟩ := mem_filter.mp hfiltered
  simp only [decide_eq_true_eq] at hname
  subst hname
  obtain ⟨definition, hdefinition, hown⟩ := mem_flatMap.mp hcontributed
  obtain ⟨tier, htier⟩ := SortedMap.mem_values_iff.mp hdefinition
  obtain ⟨hcandidate, hnamed, hsells, hposture⟩ := mem_members hown
  exact ⟨tier, definition, htier, hcandidate, hnamed, hsells, hposture⟩

/-- A group's members, zero retention first. -/
def ranked (members : List Member) : List Member :=
  members.insertionSort fun a b => a.posture.orderingRank ≤ b.posture.orderingRank

theorem mem_ranked :
    member ∈ ranked members ↔ member ∈ members :=
  mem_insertionSort _

theorem unify_eq_some (h : unify bare members = some unified) :
    2 ≤ (members.map fun member => member.candidate.provider).dedup.length ∧
      RateSchedule.dearestAcross (members.map (·.sellRates)) = some unified.definition.rates ∧
      unified.definition.candidates = (ranked members).map (·.candidate) ∧
      unified.retention =
        .ofList ((ranked members).map fun member => (member.candidate.id, member.posture)) := by
  unfold unify at h
  by_cases hproviders : (members.map fun member => member.candidate.provider).dedup.length < 2
  · rw [if_pos hproviders] at h
    cases h
  · rw [if_neg hproviders, Option.map_eq_some_iff] at h
    obtain ⟨sellRates, hsells, rfl⟩ := h
    exact ⟨not_lt.mp hproviders, hsells, rfl, rfl⟩

/-- Where a unified model comes from. -/
theorem unified_get? (h : catalog.unified = catalog.groups.filterMap unify)
    (hget : catalog.unified.get? bare = some unified) :
    ∃ members, catalog.groups.get? bare = some members ∧ unify bare members = some unified := by
  rw [h, SortedMap.get?_filterMap, Option.bind_eq_some_iff] at hget
  exact hget

end TierCatalog

end ZeroRouter
