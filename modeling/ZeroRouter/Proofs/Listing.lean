import ZeroRouter.Proofs.Margin

/-!
# A published row against the requests it describes

`model_listing` and `resolve` derive from one catalog.  A row is traced to the tier
or the candidate it was made of, and compared with the candidates a request for its
id may land on; the one row the two derivations may disagree about is a pin's, made
of one candidate of a tier a request for it walks whole.
-/

namespace ZeroRouter

open List Ordered

/-- A declaration no larger than another: what it bounds the other bounds at least as
    high, what it lists the other lists, what it grants the other grants. -/
structure ModelMetadata.NoLarger (published declared : ModelMetadata) : Prop where
  contextWindow : ∀ limit, published.contextWindow = some limit →
    ∃ own, declared.contextWindow = some own ∧ limit ≤ own
  maxOutputTokens : ∀ limit, published.maxOutputTokens = some limit →
    ∃ own, declared.maxOutputTokens = some own ∧ limit ≤ own
  inputModalities : ∀ modalities, published.inputModalities = some modalities →
    ∃ own, declared.inputModalities = some own ∧ ∀ modality ∈ modalities, modality ∈ own
  toolCall : published.toolCall = some true → declared.toolCall = some true

theorem ModelMetadata.noLarger_refl (metadata : ModelMetadata) : metadata.NoLarger metadata :=
  ⟨fun limit h => ⟨limit, h, le_refl limit⟩, fun limit h => ⟨limit, h, le_refl limit⟩,
    fun modalities h => ⟨modalities, h, fun _ hmem => hmem⟩, id⟩

/-- The narrowed metadata is no larger than any of those it narrows. -/
theorem ModelMetadata.narrowed_noLarger {declared : List ModelMetadata} {metadata : ModelMetadata}
    (hmem : metadata ∈ declared) : (ModelMetadata.narrowed declared).NoLarger metadata := by
  have smallest : ∀ pick : ModelMetadata → Option Nat, ∀ limit,
      narrowField min (declared.map pick) = some limit →
        ∃ own, pick metadata = some own ∧ limit ≤ own := by
    intro pick limit h
    exact narrowField_spec (R := (· ≤ ·)) le_refl (fun _ _ _ => le_trans) min_le_left min_le_right h
      _ (mem_map_of_mem hmem)
  refine ⟨smallest _, smallest _, ?_, ?_⟩
  · intro modalities h
    exact narrowField_spec (R := fun shared other => ∀ modality ∈ shared, modality ∈ other)
      (fun _ _ hmem => hmem) (fun _ _ _ hab hbc modality hmem => hbc modality (hab modality hmem))
      (fun _ _ _ hmem => mem_of_mem_filter hmem)
      (fun _ _ _ hmem => by simpa using (mem_filter.mp hmem).2) h _ (mem_map_of_mem hmem)
  · intro h
    obtain ⟨own, hown, himp⟩ := narrowField_spec (R := fun a b : Bool => a = true → b = true)
      (fun _ => id) (fun _ _ _ hab hbc => hbc ∘ hab) (by simp) (by simp) h
      _ (mem_map_of_mem hmem)
    rw [hown, himp rfl]

namespace TierCatalog

/-! ## The weakest pin -/

theorem weaker_noStronger (a b : RetentionPosture) :
    (a.weaker b).noStronger a = true ∧ (a.weaker b).noStronger b = true := by
  cases a <;> cases b <;> exact ⟨rfl, rfl⟩

theorem noStronger_trans {a b c : RetentionPosture} (h : a.noStronger b = true)
    (h' : b.noStronger c = true) : a.noStronger c = true := by
  cases a with
  | standard => rfl
  | zero =>
      rw [RetentionPosture.noStronger_zero] at h
      subst h
      exact h'

/-- The pin the fold keeps is no stronger than the one it had or the one it met. -/
theorem weakerPin_spec {weakest : Option RetentionPin} {pin : RetentionPin}
    {kept : Option RetentionPin} (h : weakerPin weakest (some pin) = some kept) :
    ∃ result, kept = some result ∧ result.posture.noStronger pin.posture = true ∧
      ∀ had, weakest = some had → result.posture.noStronger had.posture = true := by
  simp only [weakerPin, Option.map_some, Option.some.injEq] at h
  subst h
  cases weakest with
  | none =>
      exact ⟨pin, rfl, by simp, by simp⟩
  | some had =>
      obtain ⟨hhad, hpin⟩ := weaker_noStronger had.posture pin.posture
      by_cases hkeep : had.posture.weaker pin.posture = had.posture
      · refine ⟨had, by simp [hkeep], hkeep ▸ hpin, ?_⟩
        intro other hother
        cases hother
        simp
      · refine ⟨pin, by simp [hkeep], by simp, ?_⟩
        intro other hother
        cases hother
        -- The weaker of two is one of them.
        have : had.posture.weaker pin.posture = pin.posture := by
          cases hfirst : had.posture <;> cases hsecond : pin.posture <;>
            simp_all [RetentionPosture.weaker]
        exact this ▸ hhad

theorem weakerPin_fold {pins : List (Option RetentionPin)} {start : Option RetentionPin}
    {result : RetentionPin} (h : (pins.foldlM weakerPin start).join = some result) :
    (∀ had, start = some had → result.posture.noStronger had.posture = true) ∧
      ∀ pin ∈ pins, ∃ own, pin = some own ∧ result.posture.noStronger own.posture = true := by
  induction pins generalizing start with
  | nil =>
      refine ⟨?_, by simp⟩
      intro had hhad
      simp only [foldlM_nil, Option.pure_def, Option.join_some] at h
      rw [hhad, Option.some.injEq] at h
      simp [h]
  | cons pin rest ih =>
      rw [foldlM_cons] at h
      cases pin with
      | none => simp [weakerPin] at h
      | some own =>
          cases hstep : weakerPin start (some own) with
          | none => simp [weakerPin] at hstep
          | some kept =>
              rw [hstep] at h
              obtain ⟨hkept, hrest⟩ := ih h
              obtain ⟨middle, rfl, hown, hstart⟩ := weakerPin_spec hstep
              have hmiddle := hkept middle rfl
              refine ⟨fun had hhad => noStronger_trans hmiddle (hstart had hhad), ?_⟩
              intro pin hpin
              rcases mem_cons.mp hpin with rfl | hpin
              · exact ⟨own, rfl, noStronger_trans hmiddle hown⟩
              · exact hrest pin hpin

/-- A tier's posture is no stronger than that of any candidate it is taken over. -/
theorem tierRetention_noStronger {catalog : TierCatalog} {definition : TierDefinition}
    {retention : RetentionPin} (h : catalog.tierRetention definition = some retention)
    {candidate : CatalogCandidate} (hmem : candidate ∈ definition.candidates) :
    ∃ pin, catalog.candidateRetention definition candidate = some pin ∧
      retention.posture.noStronger pin.posture = true := by
  unfold tierRetention at h
  unfold candidateRetention
  cases hoverride : definition.retention with
  | some override =>
      rw [hoverride, Option.some.injEq] at h
      subst h
      exact ⟨override, rfl, by simp⟩
  | none =>
      rw [hoverride] at h
      obtain ⟨own, hown, hle⟩ := (weakerPin_fold h).2 _ (mem_map_of_mem hmem)
      exact ⟨own, by rw [Option.none_or, hown], hle⟩

/-! ## Where a row comes from -/

section Rows

variable (catalog : TierCatalog) (dispatchable : String → Bool)
  {models : SortedMap String ModelListing} {entry : String × TierDefinition} {id : String}
  {row : ModelListing} {candidate : CatalogCandidate} {made : String × ModelListing}

/-- A row made of a tier, or of one of its reachable candidates. -/
def MadeOf (tier : String) (definition : TierDefinition) (id : String) (row : ModelListing) :
    Prop :=
  catalog.aliasRow dispatchable tier definition = some (id, row) ∨
    ∃ candidate ∈ reachable dispatchable definition,
      catalog.candidateRow definition candidate = some (id, row)

variable {catalog dispatchable}

/-- Listing one tier keeps a row that was there or adds one made of the tier. -/
theorem listTier_get? (h : (catalog.listTier dispatchable models entry).get? id = some row) :
    models.get? id = some row ∨ catalog.MadeOf dispatchable entry.1 entry.2 id row := by
  unfold listTier at h
  split at h
  · exact .inl h
  · split at h
    · exact .inl h
    · rcases SortedMap.get?_foldl_insertNew h with h | h
      · cases halias : catalog.aliasRow dispatchable entry.1 entry.2 with
        | none =>
            rw [halias, Option.elim_none] at h
            exact .inl h
        | some made =>
            rw [halias, Option.elim_some, SortedMap.get?_insert] at h
            by_cases hid : made.1 = id
            · rw [if_pos hid, Option.some.injEq] at h
              exact .inr (.inl (halias.trans (congrArg some (Prod.ext hid h))))
            · rw [if_neg hid] at h
              exact .inl h
      · obtain ⟨candidate, hcandidate, hmade⟩ := mem_filterMap.mp h
        exact .inr (.inr ⟨candidate, hcandidate, hmade⟩)

/-- Every published row is made of a tier the catalog serves. -/
theorem modelListing_get? (h : (catalog.modelListing dispatchable).get? id = some row) :
    ∃ tier definition, catalog.tiers.get? tier = some definition ∧
      catalog.MadeOf dispatchable tier definition id row := by
  have general : ∀ (entries : List (String × TierDefinition))
      (models : SortedMap String ModelListing),
      (entries.foldl (catalog.listTier dispatchable) models).get? id = some row →
        models.get? id = some row ∨
          ∃ entry ∈ entries, catalog.MadeOf dispatchable entry.1 entry.2 id row := by
    intro entries
    induction entries with
    | nil => exact fun models h => .inl h
    | cons entry rest ih =>
        intro models h
        rcases ih _ h with h | ⟨other, hother, hmade⟩
        · rcases listTier_get? h with h | hmade
          · exact .inl h
          · exact .inr ⟨entry, mem_cons_self, hmade⟩
        · exact .inr ⟨other, mem_cons_of_mem _ hother, hmade⟩
  rcases general _ _ h with h | ⟨entry, hentry, hmade⟩
  · cases h
  · exact ⟨entry.1, entry.2, SortedMap.mem_entries_iff.mp hentry, hmade⟩

/-- Listing one tier loses no id. -/
theorem listTier_contains (h : models.contains id = true) :
    (catalog.listTier dispatchable models entry).contains id = true := by
  unfold listTier
  split
  · exact h
  · split
    · exact h
    · rw [SortedMap.contains_foldl_insertNew, Bool.or_eq_true]
      left
      cases catalog.aliasRow dispatchable entry.1 entry.2 with
      | none => exact h
      | some made =>
          unfold SortedMap.contains at h ⊢
          rw [Option.elim_some, SortedMap.get?_insert]
          split
          · rfl
          · exact h

/-- A reachable candidate of a tier not named after none of its own is listed. -/
theorem listTier_candidate (hnamed : ∃ named ∈ entry.2.candidates, named.id = entry.1)
    (hmem : candidate ∈ reachable dispatchable entry.2)
    (hrow : catalog.candidateRow entry.2 candidate = some made) :
    (catalog.listTier dispatchable models entry).contains made.1 = true := by
  unfold listTier
  rw [if_neg, if_neg, SortedMap.contains_foldl_insertNew, Bool.or_eq_true]
  · right
    rw [any_eq_true]
    exact ⟨made, mem_filterMap.mpr ⟨candidate, hmem, hrow⟩, by simp⟩
  · rintro ⟨hall, -⟩
    obtain ⟨named, hnamed, hid⟩ := hnamed
    have := all_eq_true.mp hall named hnamed
    simp [hid] at this
  · intro hempty
    rw [isEmpty_iff.mp hempty] at hmem
    cases hmem

theorem modelListing_candidate {tier : String} {definition : TierDefinition}
    (hget : catalog.tiers.get? tier = some definition)
    (hnamed : ∃ named ∈ definition.candidates, named.id = tier)
    (hmem : candidate ∈ reachable dispatchable definition)
    (hrow : catalog.candidateRow definition candidate = some made) :
    (catalog.modelListing dispatchable).contains made.1 = true := by
  have keeps : ∀ (entries : List (String × TierDefinition))
      (models : SortedMap String ModelListing), models.contains made.1 = true →
        (entries.foldl (catalog.listTier dispatchable) models).contains made.1 = true := by
    intro entries
    induction entries with
    | nil => exact fun models h => h
    | cons entry rest ih => exact fun models h => ih _ (listTier_contains h)
  obtain ⟨before, after, hentries⟩ := append_of_mem (SortedMap.mem_entries_iff.mpr hget)
  unfold modelListing
  rw [hentries, foldl_append, foldl_cons]
  exact keeps after _ (listTier_candidate hnamed hmem hrow)

end Rows

/-! ## Agreement -/

/-- What a row says of one candidate a request for its id may land on is no stronger
    than what the candidate has. -/
structure RowNoStronger (row : ModelListing) (route : CatalogRoute)
    (candidate : CatalogCandidate) : Prop where
  retention : ∃ posture, route.retention.get? candidate.id = some posture ∧
    row.retention.posture.noStronger posture = true
  metadata : row.metadata.NoLarger candidate.metadata

/-- Every published id resolves, settles at the published prices, and promises nothing
    a dispatchable candidate of its route does not keep. -/
def ListingKept (catalog : TierCatalog) (dispatchable : String → Bool) : Prop :=
  ∀ id row, (catalog.modelListing dispatchable).get? id = some row →
    ∃ route, catalog.resolve id = some route ∧ row.sellRates = route.sellRates ∧
      ∀ candidate ∈ route.candidates, dispatchable candidate.provider = true →
        RowNoStronger row route candidate

/-- A candidate at least as strong as another, in posture and in what it declares. -/
structure NoWeaker (catalog : TierCatalog) (definition : TierDefinition)
    (pin candidate : CatalogCandidate) : Prop where
  retention : ∀ own other, catalog.candidateRetention definition pin = some own →
    catalog.candidateRetention definition candidate = some other →
      own.posture.noStronger other.posture = true
  metadata : pin.metadata.NoLarger candidate.metadata

/-- In every tier named after a dispatchable candidate of its own, that candidate is the
    weakest of the dispatchable ones. -/
def PinsWeakest (catalog : TierCatalog) (dispatchable : String → Bool) : Prop :=
  ∀ tier definition, catalog.tiers.get? tier = some definition →
    ∀ pin ∈ definition.candidates, pin.id = tier → dispatchable pin.provider = true →
      ∀ candidate ∈ definition.candidates, dispatchable candidate.provider = true →
        catalog.NoWeaker definition pin candidate

section Kept

variable {inventory : DeclaredInventory} {catalog : TierCatalog} {dispatchable : String → Bool}
  {definition : TierDefinition} {row : ModelListing} {candidate own : CatalogCandidate}
  {id : String}

theorem mem_reachable :
    candidate ∈ reachable dispatchable definition ↔
      candidate ∈ definition.candidates ∧ dispatchable candidate.provider = true := by
  simp [reachable]

/-- An alias row is kept by the whole tier. -/
theorem Loaded.alias_kept (loaded : catalog.Loaded inventory) {tier : String}
    (hget : catalog.tiers.get? tier = some definition)
    (hrow : catalog.aliasRow dispatchable tier definition = some (id, row)) :
    ∃ route, catalog.resolve id = some route ∧ row.sellRates = route.sellRates ∧
      ∀ candidate ∈ route.candidates, dispatchable candidate.provider = true →
        RowNoStronger row route candidate := by
  unfold aliasRow at hrow
  split at hrow
  case isFalse => cases hrow
  obtain ⟨retention, hretention, hmade⟩ := Option.map_eq_some_iff.mp hrow
  rw [Prod.mk.injEq] at hmade
  obtain ⟨rfl, rfl⟩ := hmade
  refine ⟨catalog.tierRoute tier definition, loaded.resolve_tier hget, rfl, ?_⟩
  intro candidate hcandidate hdispatchable
  have hreachable := mem_reachable.mpr ⟨hcandidate, hdispatchable⟩
  obtain ⟨pin, hpin, hle⟩ := tierRetention_noStronger hretention hreachable
  refine ⟨⟨pin.posture, ?_, hle⟩,
    ModelMetadata.narrowed_noLarger (mem_map_of_mem hreachable)⟩
  have hpin' : catalog.candidateRetention definition candidate = some pin := hpin
  have := catalog.routeRetention_get? definition (loaded.ids_nodup hget) hcandidate
  rw [hpin', Option.map_some] at this
  exact this

/-- The row of a candidate is kept by the route of that candidate alone. -/
theorem candidateRoute_kept {pin : RetentionPin}
    (hpin : catalog.candidateRetention definition own = some pin)
    (hretention : row.retention = pin) (hmetadata : row.metadata = own.metadata) :
    ∀ candidate ∈ (catalog.candidateRoute own.id definition own).candidates,
      RowNoStronger row (catalog.candidateRoute own.id definition own) candidate := by
  intro candidate hcandidate
  rw [show candidate = own from mem_singleton.mp hcandidate]
  refine ⟨⟨pin.posture, ?_, by simp [hretention]⟩, hmetadata ▸ own.metadata.noLarger_refl⟩
  have := catalog.routeRetention_get? definition
    (show ([own].map (·.id)).Nodup from nodup_singleton _) mem_cons_self
  rw [hpin, Option.map_some] at this
  exact this

theorem candidateRow_eq_some (h : catalog.candidateRow definition candidate = some (id, row)) :
    candidate.id = id ∧ row.sellRates = definition.rates ∧ row.metadata = candidate.metadata ∧
      catalog.candidateRetention definition candidate = some row.retention := by
  unfold candidateRow at h
  obtain ⟨retention, hretention, hmade⟩ := Option.map_eq_some_iff.mp h
  rw [Prod.mk.injEq] at hmade
  obtain ⟨rfl, rfl⟩ := hmade
  exact ⟨rfl, rfl, rfl, hretention⟩

/-- The row of a candidate a tier is named after is kept by the whole tier, if the
    candidate is its weakest. -/
theorem Loaded.pin_kept (loaded : catalog.Loaded inventory)
    (hget : catalog.tiers.get? own.id = some definition)
    (hretention : catalog.candidateRetention definition own = some row.retention)
    (hmetadata : row.metadata = own.metadata)
    (weakest : ∀ candidate ∈ definition.candidates, dispatchable candidate.provider = true →
      catalog.NoWeaker definition own candidate) :
    ∀ candidate ∈ (catalog.tierRoute own.id definition).candidates,
      dispatchable candidate.provider = true →
        RowNoStronger row (catalog.tierRoute own.id definition) candidate := by
  intro candidate hcandidate hdispatchable
  have hweakest := weakest candidate hcandidate hdispatchable
  obtain ⟨pin, hpin⟩ := loaded.labelled hget hcandidate
  refine ⟨⟨pin.posture, ?_, hweakest.retention _ _ hretention hpin⟩,
    hmetadata ▸ hweakest.metadata⟩
  have := catalog.routeRetention_get? definition (loaded.ids_nodup hget) hcandidate
  rw [hpin, Option.map_some] at this
  exact this

/-- The one row published under the id of a reachable candidate a tier is named after
    is made of that candidate. -/
theorem Loaded.pin_row (loaded : catalog.Loaded inventory) {pin : CatalogCandidate}
    (hget : catalog.tiers.get? pin.id = some definition) (hpin : pin ∈ definition.candidates)
    (hdispatchable : dispatchable pin.provider = true) :
    ∃ row, (catalog.modelListing dispatchable).get? pin.id = some row ∧
      catalog.candidateRow definition pin = some (pin.id, row) := by
  obtain ⟨retention, hretention⟩ := loaded.labelled hget hpin
  have hmade : ∃ made, catalog.candidateRow definition pin = some made ∧ made.1 = pin.id := by
    unfold candidateRow
    rw [hretention, Option.map_some]
    exact ⟨_, rfl, rfl⟩
  obtain ⟨made, hrow, hid⟩ := hmade
  have hlisted := modelListing_candidate hget ⟨pin, hpin, rfl⟩
    (mem_reachable.mpr ⟨hpin, hdispatchable⟩) hrow
  rw [hid] at hlisted
  obtain ⟨row, hfound⟩ := SortedMap.contains_eq_true.mp hlisted
  refine ⟨row, hfound, ?_⟩
  obtain ⟨tier, other, hother, hmade⟩ := modelListing_get? hfound
  rcases hmade with halias | ⟨candidate, hcandidate, hcandidateRow⟩
  · -- An alias row's id is no candidate's, and this id is one's.
    unfold aliasRow at halias
    split at halias
    case isFalse => cases halias
    next hall =>
      obtain ⟨_, _, hmade⟩ := Option.map_eq_some_iff.mp halias
      rw [Prod.mk.injEq] at hmade
      have htier : tier = pin.id := hmade.1
      subst htier
      rw [hget, Option.some.injEq] at hother
      subst hother
      have := all_eq_true.mp hall pin hpin
      simp at this
  · obtain ⟨hcandidateId, -, -, -⟩ := candidateRow_eq_some hcandidateRow
    obtain ⟨rfl, rfl⟩ := loaded.unique hother hget (mem_reachable.mp hcandidate).1 hpin hcandidateId
    exact hcandidateRow

end Kept

end TierCatalog

/-- The public catalog promises nothing a request for one of its ids may not get,
    exactly when every tier named after a dispatchable candidate of its own is named
    after the weakest of its dispatchable candidates. -/
theorem listing_kept_iff {inventory : DeclaredInventory} {isDate : String → Bool}
    {file : TierFile} {catalog : TierCatalog}
    (h : loadTierCatalog inventory isDate file = .ok catalog) (dispatchable : String → Bool) :
    catalog.ListingKept dispatchable ↔ catalog.PinsWeakest dispatchable := by
  obtain ⟨loaded, -⟩ := loadTierCatalog_ok h
  constructor
  · intro kept tier definition hget pin hpin hid hdispatchable candidate hcandidate hreachable
    subst hid
    obtain ⟨row, hrow, hmade⟩ := loaded.pin_row hget hpin hdispatchable
    obtain ⟨-, -, hmetadata, hretention⟩ := TierCatalog.candidateRow_eq_some hmade
    obtain ⟨route, hroute, -, hcandidates⟩ := kept pin.id row hrow
    rw [loaded.resolve_tier hget, Option.some.injEq] at hroute
    subst hroute
    obtain ⟨⟨posture, hposture, hle⟩, hnoLarger⟩ := hcandidates candidate hcandidate hreachable
    refine ⟨?_, hmetadata ▸ hnoLarger⟩
    intro own other hown hother
    have hroutePosture :=
      catalog.routeRetention_get? definition (loaded.ids_nodup hget) hcandidate
    rw [hother, Option.map_some] at hroutePosture
    rw [hretention, Option.some.injEq] at hown
    rw [show (catalog.tierRoute pin.id definition).retention.get? candidate.id = _ from
      hroutePosture, Option.some.injEq] at hposture
    rw [← hown, hposture]
    exact hle
  · intro weakest id row hrow
    obtain ⟨tier, definition, hget, hmade⟩ := TierCatalog.modelListing_get? hrow
    rcases hmade with halias | ⟨own, hown, hcandidateRow⟩
    · exact loaded.alias_kept hget halias
    · obtain ⟨rfl, hsells, hmetadata, hretention⟩ := TierCatalog.candidateRow_eq_some hcandidateRow
      obtain ⟨hmem, hdispatchable⟩ := TierCatalog.mem_reachable.mp hown
      cases hnamed : catalog.tiers.get? own.id with
      | none =>
          refine ⟨_, loaded.resolve_candidate hget hmem hnamed, hsells, ?_⟩
          intro candidate hcandidate _
          exact TierCatalog.candidateRoute_kept hretention rfl hmetadata candidate hcandidate
      | some definition' =>
          have hsame := loaded.tier_of_candidate hget hmem hnamed
          subst hsame
          refine ⟨_, loaded.resolve_tier hnamed, hsells, ?_⟩
          exact loaded.pin_kept hnamed hretention hmetadata
            (weakest own.id definition' hnamed own hmem rfl hdispatchable)

/-- Single-candidate pins, two providers. -/
theorem twins_listing_iff :
    Twins.catalog.ListingKept (fun _ => true) ↔ Twins.catalog.PinsWeakest (fun _ => true) :=
  listing_kept_iff Twins.loads _

namespace Twins

/-- A tier named after the candidate that retains nothing, with a retaining rung behind
    it. -/
def laddered : TierFile where
  schemaVersion := 1
  tiers := .ofList
    [("bedrock/haiku",
      { candidates :=
          [candidate "bedrock/haiku" "bedrock" (flatRates 1 5),
            candidate "anthropic/haiku" "anthropic" (flatRates 1 5)]
        rates := flatRates 1 5
        retention := none })]
  retention := .ofList [("anthropic", pin .standard), ("bedrock", pin .zero)]

def ladderedCatalog : TierCatalog := (laddered.catalog.withhold .empty).synthesizeUnified

theorem laddered_loads :
    loadTierCatalog inventory (fun _ => true) laddered = .ok ladderedCatalog := by
  have validates : validateTierCatalog inventory (fun _ => true) laddered = .ok .empty := by
    unfold validateTierCatalog
    rw [pins_validate (by decide +kernel)]
    decide +kernel
  unfold loadTierCatalog
  rw [validates]
  rfl

theorem laddered_row :
    ((ladderedCatalog.modelListing fun _ => true).get? "bedrock/haiku").map
      (·.retention.posture) = some .zero := by
  decide +kernel

theorem laddered_posture :
    (ladderedCatalog.resolve "bedrock/haiku").bind (·.retention.get? "anthropic/haiku") =
      some .standard := by
  decide +kernel

theorem laddered_candidates :
    (ladderedCatalog.resolve "bedrock/haiku").map (·.candidates) =
      some [candidate "bedrock/haiku" "bedrock" (flatRates 1 5),
        candidate "anthropic/haiku" "anthropic" (flatRates 1 5)] := by
  decide +kernel

end Twins

/-- The pin publishes `zero` while a request for it may land on the retaining rung. -/
theorem laddered_pin_stronger :
    loadTierCatalog Twins.inventory (fun _ => true) Twins.laddered = .ok Twins.ladderedCatalog ∧
      ¬ Twins.ladderedCatalog.ListingKept fun _ => true := by
  refine ⟨Twins.laddered_loads, ?_⟩
  intro kept
  obtain ⟨row, hrow, hzero⟩ := Option.map_eq_some_iff.mp Twins.laddered_row
  obtain ⟨route, hroute, -, hcandidates⟩ := kept _ row hrow
  have hposture := Twins.laddered_posture
  have hlist := Twins.laddered_candidates
  rw [hroute, Option.bind_some] at hposture
  rw [hroute, Option.map_some, Option.some.injEq] at hlist
  obtain ⟨⟨posture, hfound, hle⟩, -⟩ := hcandidates
    (Twins.candidate "anthropic/haiku" "anthropic" (Twins.flatRates 1 5))
    (by rw [hlist]; exact List.mem_cons_of_mem _ List.mem_cons_self) rfl
  have hfound := hposture.symm.trans hfound
  rw [Option.some.injEq] at hfound
  rw [hzero, ← hfound] at hle
  cases hle

end ZeroRouter
