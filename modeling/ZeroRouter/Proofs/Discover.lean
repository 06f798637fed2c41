import ZeroRouter.Discover

/-!
# Discovery misses a model behind an older spelling

The scan keeps the first spelling of each name, in the order of the source, and the window is put to
that spelling's date.  Everything else of the report follows from what the scan keeps.
-/

namespace ZeroRouter.Discover

open List Ordered

/-! ## Indexes -/

theorem contains_addTo (map : SortedMap String StringSet) (key item asked other : String) :
    ((addTo map key item).get? asked).any (·.contains other) = true ↔
      (key = asked ∧ item = other) ∨ (map.get? asked).any (·.contains other) = true := by
  unfold addTo
  rw [SortedMap.get?_insert]
  by_cases same : key = asked
  · subst same
    rw [if_pos rfl, Option.any_some, SortedMap.contains_eq_true]
    simp only [SortedMap.get?_insert]
    by_cases here : item = other
    · simp [here]
    · rw [if_neg here]
      cases held : map.get? key with
      | none => simp [here]
      | some set => simp [here, SortedMap.contains_eq_true]
  · rw [if_neg same]
    simp [same]

theorem splitVersion_ne_nil {name front back : String} {version : List Nat}
    (h : splitVersion name = some (front, version, back)) : version ≠ [] := by
  unfold splitVersion at h
  dsimp only at h
  split at h
  · cases h
  · split at h
    · cases h
    · next filled =>
        simp only [Option.some.injEq, Prod.mk.injEq] at h
        obtain ⟨-, rfl, -⟩ := h
        intro nil
        rw [nil] at filled
        exact filled rfl

/-- A list of keys and items filed under their keys. -/
theorem contains_foldl_addTo (entries : List (String × String)) (map : SortedMap String StringSet)
    (asked other : String) :
    ((entries.foldl (fun map entry => addTo map entry.1 entry.2) map).get? asked).any
        (·.contains other) = true ↔
      (asked, other) ∈ entries ∨ (map.get? asked).any (·.contains other) = true := by
  induction entries generalizing map with
  | nil => simp
  | cons entry rest ih =>
      rw [foldl_cons, ih, contains_addTo, mem_cons, Prod.ext_iff]
      rw [eq_comm (a := entry.1), eq_comm (a := entry.2)]
      tauto

/-- A list of keys and versions, the highest of each key kept. -/
theorem get?_foldl_raise (entries : List (Family × List Nat))
    (versions : ∀ entry ∈ entries, entry.2 ≠ []) (key : Family) :
    match (entries.foldl (fun map entry => raise map entry.1 entry.2) .empty).get? key with
    | none => ∀ version, (key, version) ∉ entries
    | some highest => (key, highest) ∈ entries ∧
        ∀ version, (key, version) ∈ entries → version ≤ highest := by
  induction entries using List.reverseRecOn with
  | nil => simp
  | append_singleton rest entry ih =>
      have ih := ih fun other mem => versions other (mem_append_left _ mem)
      have filled := versions entry (mem_append_right _ (mem_singleton_self _))
      rw [foldl_append, foldl_cons, foldl_nil, raise, SortedMap.get?_insert]
      by_cases own : entry.1 = key
      · subst own
        rw [if_pos rfl]
        cases held : (rest.foldl (fun map entry => raise map entry.1 entry.2)
            SortedMap.empty).get? entry.1 with
        | none =>
            rw [held] at ih
            have above : ([] : List Nat) < entry.2 := by
              cases is_version : entry.2 with
              | nil => exact absurd is_version filled
              | cons part parts => exact nil_lt_cons _ _
            simp only [Option.getD_none, if_pos above]
            refine ⟨mem_append_right _ (mem_singleton_self _), ?_⟩
            intro version mem
            rcases mem_append.mp mem with mem | mem
            · exact absurd mem (ih version)
            · rw [← mem_singleton.mp mem]
        | some slot =>
            rw [held] at ih
            obtain ⟨found, most⟩ := ih
            simp only [Option.getD_some]
            by_cases above : slot < entry.2
            · rw [if_pos above]
              refine ⟨mem_append_right _ (mem_singleton_self _), ?_⟩
              intro version mem
              rcases mem_append.mp mem with mem | mem
              · exact (most version mem).trans above.le
              · rw [← mem_singleton.mp mem]
            · rw [if_neg above]
              refine ⟨mem_append_left _ found, ?_⟩
              intro version mem
              rcases mem_append.mp mem with mem | mem
              · exact most version mem
              · rw [← mem_singleton.mp mem] at above
                exact not_lt.mp above
      · rw [if_neg own]
        have same : ∀ version, (key, version) ∈ rest ++ [entry] ↔ (key, version) ∈ rest := by
          intro version
          simp only [mem_append, mem_singleton, or_iff_left_iff_imp]
          intro eq
          exact absurd (congrArg Prod.fst eq).symm own
        simp only [same]
        exact ih

/-! ## What the catalog carries -/

section Carried

variable (catalog : TierCatalog)

/-- A candidate of a provider goes by a name. -/
def Carries (provider name : String) : Prop :=
  ∃ candidate ∈ catalogCandidates catalog,
    candidate.provider = provider ∧ canonical candidate.model = name

/-- Another provider carries the name. -/
def Twin (provider name : String) : Prop := ∃ other, other ≠ provider ∧ Carries catalog other name

/-- A candidate of a provider is of a family, at a version. -/
def CarriesVersion (provider front back : String) (version : List Nat) : Prop :=
  ∃ candidate ∈ catalogCandidates catalog, candidate.provider = provider ∧
    splitVersion (canonical candidate.model) = some (front, version, back)

/-- The name's version is above every one carried of its family, of which there is one. -/
def Bump (provider name : String) : Prop :=
  ∃ front version back, splitVersion name = some (front, version, back) ∧
    (∃ carried, CarriesVersion catalog provider front back carried) ∧
    ∀ carried, CarriesVersion catalog provider front back carried → carried < version

/-- The family a candidate is of, and its version. -/
def familyOf (candidate : CatalogCandidate) : Option (Family × List Nat) :=
  (splitVersion (canonical candidate.model)).map fun parts =>
    (toLex (candidate.provider, toLex (parts.1, parts.2.2)), parts.2.1)

theorem fromCatalog_byProvider :
    (Carried.fromCatalog catalog).byProvider =
      ((catalogCandidates catalog).map fun candidate =>
        (candidate.provider, canonical candidate.model)).foldl
          (fun map entry => addTo map entry.1 entry.2) .empty := by
  rw [foldl_map]
  refine (foldl_hom Carried.byProvider ?_).symm
  exact fun _ _ => rfl

theorem fromCatalog_providersByModel :
    (Carried.fromCatalog catalog).providersByModel =
      ((catalogCandidates catalog).map fun candidate =>
        (canonical candidate.model, candidate.provider)).foldl
          (fun map entry => addTo map entry.1 entry.2) .empty := by
  rw [foldl_map]
  refine (foldl_hom Carried.providersByModel ?_).symm
  exact fun _ _ => rfl

theorem add_maxVersion (carried : Carried) (candidate : CatalogCandidate) :
    (carried.add candidate).maxVersion =
      (familyOf candidate).elim carried.maxVersion fun entry =>
        raise carried.maxVersion entry.1 entry.2 := by
  unfold Carried.add familyOf
  dsimp only
  cases splitVersion (canonical candidate.model) with
  | none => rfl
  | some parts => rfl

theorem fromCatalog_maxVersion :
    (Carried.fromCatalog catalog).maxVersion =
      ((catalogCandidates catalog).filterMap familyOf).foldl
        (fun map entry => raise map entry.1 entry.2) .empty := by
  rw [foldl_filterMap]
  refine (foldl_hom Carried.maxVersion ?_).symm
  intro carried candidate
  rw [add_maxVersion]
  cases familyOf candidate with
  | none => rfl
  | some entry => rfl

theorem mem_families {provider front back : String} {version : List Nat} :
    (toLex (provider, toLex (front, back)), version) ∈
        (catalogCandidates catalog).filterMap familyOf ↔
      CarriesVersion catalog provider front back version := by
  rw [mem_filterMap]
  refine exists_congr fun candidate => and_congr_right fun _ => ?_
  unfold familyOf
  cases splitVersion (canonical candidate.model) with
  | none => simp
  | some parts =>
      obtain ⟨front', version', back'⟩ := parts
      simp only [Option.map_some, Option.some.injEq, Prod.mk.injEq, toLex_inj]
      tauto

theorem byProvider_iff (provider name : String) :
    ((Carried.fromCatalog catalog).byProvider.get? provider).any (·.contains name) = true ↔
      Carries catalog provider name := by
  rw [fromCatalog_byProvider, contains_foldl_addTo]
  simp [Carries]

theorem providersByModel_iff (name provider : String) :
    ((Carried.fromCatalog catalog).providersByModel.get? name).any (·.contains provider) = true ↔
      Carries catalog provider name := by
  rw [fromCatalog_providersByModel, contains_foldl_addTo]
  simp only [SortedMap.get?_empty, Option.any_none, Bool.false_eq_true, or_false, mem_map,
    Prod.mk.injEq, Carries]
  exact exists_congr fun candidate => and_congr_right fun _ => and_comm

/-- The highest version of a family: there is one exactly if the family is carried. -/
theorem maxVersion_cases (provider front back : String) :
    ((Carried.fromCatalog catalog).maxVersion.get? (toLex (provider, toLex (front, back))) = none ∧
        ∀ version, ¬ CarriesVersion catalog provider front back version) ∨
      ∃ highest,
        (Carried.fromCatalog catalog).maxVersion.get? (toLex (provider, toLex (front, back))) =
          some highest ∧
        CarriesVersion catalog provider front back highest ∧
        ∀ version, CarriesVersion catalog provider front back version → version ≤ highest := by
  have filled : ∀ entry ∈ (catalogCandidates catalog).filterMap familyOf, entry.2 ≠ [] := by
    intro entry mem
    obtain ⟨candidate, -, is_family⟩ := mem_filterMap.mp mem
    obtain ⟨parts, splits, rfl⟩ := Option.map_eq_some_iff.mp is_family
    exact splitVersion_ne_nil splits
  have held := get?_foldl_raise _ filled (toLex (provider, toLex (front, back)))
  rw [← fromCatalog_maxVersion] at held
  cases found : (Carried.fromCatalog catalog).maxVersion.get?
      (toLex (provider, toLex (front, back))) with
  | none =>
      rw [found] at held
      exact .inl ⟨rfl, fun version carries => held version ((mem_families catalog).mpr carries)⟩
  | some highest =>
      rw [found] at held
      exact .inr ⟨highest, rfl, (mem_families catalog).mp held.1,
        fun version carries => held.2 version ((mem_families catalog).mpr carries)⟩

end Carried

/-! ## Classification -/

section Classify

variable (calendar : Calendar) (catalog : TierCatalog)

theorem elsewhere_iff (provider name : String) :
    ((((Carried.fromCatalog catalog).providersByModel.get? name).getD .empty).keys.filter
        (· ≠ provider)).isEmpty = false ↔ Twin catalog provider name := by
  rw [isEmpty_eq_false_iff_exists_mem]
  unfold Twin
  refine exists_congr fun other => ?_
  rw [mem_filter, decide_eq_true_eq, and_comm, ← providersByModel_iff]
  refine and_congr_right fun _ => ?_
  unfold SortedMap.keys
  rw [mem_map]
  cases (Carried.fromCatalog catalog).providersByModel.get? name with
  | none => simp [SortedMap.empty]
  | some set =>
      rw [Option.getD_some, Option.any_some, SortedMap.contains_eq_true]
      constructor
      · rintro ⟨⟨key, value⟩, mem, rfl⟩
        exact ⟨value, SortedMap.mem_entries_iff.mp mem⟩
      · rintro ⟨value, held⟩
        exact ⟨(other, value), SortedMap.mem_entries_iff.mpr held, rfl⟩

/-- The version a name's family is carried at, where the name's is above it. -/
theorem bump_iff (provider name : String) :
    ((splitVersion name).bind fun parts =>
        ((Carried.fromCatalog catalog).maxVersion.get?
          (toLex (provider, toLex (parts.1, parts.2.2)))).bind fun highest =>
            if highest < parts.2.1 then some (highest, parts.2.1) else none).isSome = true ↔
      Bump catalog provider name := by
  unfold Bump
  cases splits : splitVersion name with
  | none => simp
  | some parts =>
      obtain ⟨front, version, back⟩ := parts
      rw [Option.bind_some]
      dsimp only
      rcases maxVersion_cases catalog provider front back with
        ⟨missing, uncarried⟩ | ⟨highest, held, carries, most⟩
      · rw [missing]
        simp only [Option.bind_none, Option.isSome_none, Bool.false_eq_true, false_iff]
        rintro ⟨_, _, _, ⟨⟩, ⟨other, carried⟩, -⟩
        exact uncarried other carried
      · rw [held, Option.bind_some]
        by_cases above : highest < version
        · rw [if_pos above]
          refine iff_of_true rfl ⟨front, version, back, rfl, ⟨highest, carries⟩, ?_⟩
          exact fun other carried => (most other carried).trans_lt above
        · rw [if_neg above]
          refine iff_of_false Bool.false_ne_true ?_
          rintro ⟨_, _, _, ⟨⟩, -, below⟩
          exact above (below highest carries)

/-- What a finding says, and of what. -/
theorem classify_cases (provider model name : String) (release : Option Int) :
    (classify calendar provider model name (Carried.fromCatalog catalog) release).provider =
        provider ∧
      (classify calendar provider model name (Carried.fromCatalog catalog) release).model =
        model ∧
      ((classify calendar provider model name (Carried.fromCatalog catalog) release).category =
          .crossCloud ↔ Twin catalog provider name) ∧
      ((classify calendar provider model name (Carried.fromCatalog catalog) release).category =
          .versionBump ↔ ¬ Twin catalog provider name ∧ Bump catalog provider name) := by
  have twin := elsewhere_iff catalog provider name
  have bump := bump_iff catalog provider name
  unfold classify
  dsimp only
  by_cases is_twin : Twin catalog provider name
  · rw [if_pos (by rw [twin.mpr is_twin]; exact Bool.false_ne_true)]
    simp [is_twin]
  · rw [if_neg (by simpa using fun h => is_twin (twin.mp h))]
    have bound : (do
        let parts ← splitVersion name
        let highest ← (Carried.fromCatalog catalog).maxVersion.get?
          (toLex (provider, toLex (parts.1, parts.2.2)))
        if highest < parts.2.1 then some (highest, parts.2.1) else none) =
      (splitVersion name).bind fun parts =>
        ((Carried.fromCatalog catalog).maxVersion.get?
          (toLex (provider, toLex (parts.1, parts.2.2)))).bind fun highest =>
            if highest < parts.2.1 then some (highest, parts.2.1) else none := rfl
    rw [bound]
    cases found : (splitVersion name).bind fun parts =>
        ((Carried.fromCatalog catalog).maxVersion.get?
          (toLex (provider, toLex (parts.1, parts.2.2)))).bind fun highest =>
            if highest < parts.2.1 then some (highest, parts.2.1) else none with
    | none =>
        rw [found] at bump
        have no_bump : ¬ Bump catalog provider name := by
          rw [← bump]
          exact Bool.false_ne_true
        simp [is_twin, no_bump]
    | some pair =>
        rw [found] at bump
        have is_bump : Bump catalog provider name := bump.mp rfl
        obtain ⟨highest, version⟩ := pair
        simp [is_twin, is_bump]

end Classify

/-! ## The scan -/

/-- A provider and one model the source lists under it. -/
abbrev Offer := String × String × SourceModel

section Scan

variable (calendar : Calendar) (catalog : TierCatalog) (source : SortedMap String SourceProvider)
  (credentialed : List (String × String))

/-- What the source lists under the credentialed providers, in the order of the scan. -/
def offers : List Offer :=
  credentialed.flatMap fun lane =>
    ((source.get? lane.2).elim [] (·.models.entries)).map fun listed => (lane.1, listed)

/-- The provider and the name an offer is of. -/
def key (offer : Offer) : String × String := (offer.1, canonical offer.2.1)

/-- An offer of a chat model that is not carried on its provider. -/
def eligible (offer : Offer) : Bool :=
  !isNonChat offer.2.1 offer.2.2 &&
    !(catalogCandidates catalog).any fun candidate =>
      candidate.provider = offer.1 && canonical candidate.model = canonical offer.2.1

theorem eligible_iff (offer : Offer) :
    eligible catalog offer = true ↔
      isNonChat offer.2.1 offer.2.2 = false ∧ ¬ Carries catalog offer.1 (canonical offer.2.1) := by
  unfold eligible Carries
  simp

/-- The finding an offer comes to. -/
def found (offer : Offer) : Candidate × Option Int :=
  (classify calendar offer.1 offer.2.1 (canonical offer.2.1) (Carried.fromCatalog catalog)
      (offer.2.2.release calendar),
    offer.2.2.release calendar)

/-- The first eligible offer of a provider and a name. -/
def firstOf (listed : List Offer) (of : String × String) : Option Offer :=
  listed.find? fun offer => eligible catalog offer && key offer = of

/-- What the scan has kept of the offers it has seen. -/
structure Scanned (done kept : List Offer) (findings : Findings) : Prop where
  scored : findings.scored = kept.map (found calendar catalog)
  seen : ∀ of, of ∈ findings.seen ↔ of ∈ kept.map key
  once : (kept.map key).Nodup
  first : ∀ offer ∈ kept, firstOf catalog done (key offer) = some offer
  all : ∀ offer ∈ done, eligible catalog offer = true → key offer ∈ kept.map key

theorem scan_eq :
    scan calendar catalog source credentialed =
      (offers source credentialed).foldl
        (fun findings offer => visit calendar (Carried.fromCatalog catalog) offer.1 findings
          offer.2) ⟨[], []⟩ := by
  unfold scan offers
  rw [foldl_flatMap]
  dsimp only
  congr 1
  funext findings lane
  cases source.get? lane.2 with
  | none => rfl
  | some provider => rw [Option.elim_some, foldl_map]

theorem visit_eq (findings : Findings) (offer : Offer) :
    visit calendar (Carried.fromCatalog catalog) offer.1 findings offer.2 =
      if eligible catalog offer = true ∧ key offer ∉ findings.seen then
        ⟨findings.scored ++ [found calendar catalog offer], key offer :: findings.seen⟩
      else findings := by
  have carried := byProvider_iff catalog offer.1 (canonical offer.2.1)
  have is_eligible := eligible_iff catalog offer
  obtain ⟨provider, model, entry⟩ := offer
  unfold visit key found
  dsimp only at carried is_eligible ⊢
  by_cases here : Carries catalog provider (canonical model)
  · rw [if_pos (carried.mpr here), if_neg]
    exact fun h => (is_eligible.mp h.1).2 here
  · rw [if_neg (fun h => here (carried.mp h))]
    by_cases noise : isNonChat model entry = true
    · rw [if_pos noise, if_neg]
      intro h
      rw [(is_eligible.mp h.1).1] at noise
      cases noise
    · rw [if_neg noise]
      have open_ : eligible catalog (provider, model, entry) = true :=
        is_eligible.mpr ⟨by simpa using noise, here⟩
      by_cases known : (provider, canonical model) ∈ findings.seen
      · rw [if_pos known, if_neg]
        exact fun h => h.2 known
      · rw [if_neg known, if_pos ⟨open_, known⟩]

/-- One more offer. -/
theorem scanned_visit {done kept : List Offer} {findings : Findings}
    (h : Scanned calendar catalog done kept findings) (offer : Offer) :
    ∃ kept', Scanned calendar catalog (done ++ [offer]) kept'
      (visit calendar (Carried.fromCatalog catalog) offer.1 findings offer.2) := by
  have first : ∀ other ∈ kept, firstOf catalog (done ++ [offer]) (key other) = some other := by
    intro other mem
    unfold firstOf
    rw [find?_append]
    have before := h.first other mem
    unfold firstOf at before
    rw [before]
    rfl
  rw [visit_eq]
  by_cases fresh : eligible catalog offer = true ∧ key offer ∉ findings.seen
  · rw [if_pos fresh]
    have unseen : key offer ∉ kept.map key := fun mem => fresh.2 ((h.seen _).mpr mem)
    refine ⟨kept ++ [offer], ?_, ?_, ?_, ?_, ?_⟩
    · rw [map_append, h.scored]
      rfl
    · intro of
      rw [mem_cons, h.seen, map_append, mem_append, map_singleton,
        mem_singleton, or_comm]
    · rw [map_append, map_singleton]
      refine nodup_append.mpr ⟨h.once, nodup_singleton _, ?_⟩
      intro of mem of' mem' same
      rw [mem_singleton.mp mem'] at same
      exact unseen (same ▸ mem)
    · intro other mem
      rcases mem_append.mp mem with mem | mem
      · exact first other mem
      · rw [mem_singleton.mp mem]
        unfold firstOf
        rw [find?_append]
        have none_before : done.find?
            (fun other => eligible catalog other && key other = key offer) = none := by
          rw [find?_eq_none]
          intro other mem same
          rw [Bool.and_eq_true, decide_eq_true_eq] at same
          exact unseen (same.2 ▸ h.all other mem same.1)
        rw [none_before]
        simp [fresh.1]
    · intro other mem is_eligible
      rw [map_append, mem_append]
      rcases mem_append.mp mem with mem | mem
      · exact .inl (h.all other mem is_eligible)
      · rw [mem_singleton.mp mem]
        exact .inr (mem_singleton_self _)
  · rw [if_neg fresh]
    refine ⟨kept, h.scored, h.seen, h.once, first, ?_⟩
    intro other mem is_eligible
    rcases mem_append.mp mem with mem | mem
    · exact h.all other mem is_eligible
    · rw [mem_singleton.mp mem] at is_eligible ⊢
      by_contra missing
      exact fresh ⟨is_eligible, fun seen => missing ((h.seen _).mp seen)⟩

/-- The whole scan keeps the first spelling of every name that is not carried. -/
theorem scanned_scan :
    ∃ kept, Scanned calendar catalog (offers source credentialed) kept
      (scan calendar catalog source credentialed) := by
  rw [scan_eq]
  induction offers source credentialed using List.reverseRecOn with
  | nil =>
      exact ⟨[], rfl, fun _ => Iff.rfl, .nil, nofun, nofun⟩
  | append_singleton done offer ih =>
      obtain ⟨kept, h⟩ := ih
      rw [foldl_append, foldl_cons, foldl_nil]
      exact scanned_visit calendar catalog h offer

end Scan

/-! ## The report -/

section Report

variable (calendar : Calendar) (catalog : TierCatalog) (source : SortedMap String SourceProvider)
  (credentialed : List (String × String)) (today newSinceDays : Int)

/-- The day the window starts on, were it in the calendar. -/
def windowStart : Int := today - max newSinceDays 0

/-- An offer's date is before the window. -/
def Stale (offer : Offer) : Prop :=
  ∃ date, offer.2.2.release calendar = some date ∧ date < windowStart today newSinceDays

/-- A finding is of a provider and a name. -/
def ofKey (of : String × String) (finding : Candidate) : Bool :=
  (finding.provider, canonical finding.model) = of

/-- What the report promises. -/
structure Reports (findings : List Candidate) : Prop where
  /-- One finding for a name that is not carried, unless every spelling of it is stale. -/
  complete : ∀ offer ∈ offers source credentialed, eligible catalog offer = true →
    Twin catalog offer.1 (canonical offer.2.1) ∨ Bump catalog offer.1 (canonical offer.2.1) ∨
      (∃ other ∈ offers source credentialed, key other = key offer ∧
        ¬ Stale calendar today newSinceDays other) →
    findings.countP (ofKey (key offer)) = 1
  once : ∀ of, findings.countP (ofKey of) ≤ 1
  category : ∀ finding ∈ findings,
    (finding.category = .crossCloud ↔
      Twin catalog finding.provider (canonical finding.model)) ∧
    (finding.category = .versionBump ↔
      ¬ Twin catalog finding.provider (canonical finding.model) ∧
        Bump catalog finding.provider (canonical finding.model))
  /-- The new ones, with the dates the source states: newest first, undated last. -/
  newest : ∃ dated : List (Candidate × Option Int), dated.map (·.1) = findings ∧
    (∀ finding ∈ dated, ∃ offer ∈ offers source credentialed,
      offer.1 = finding.1.provider ∧ offer.2.1 = finding.1.model ∧
        offer.2.2.release calendar = finding.2) ∧
    (dated.filter (·.1.category = .new)).Pairwise fun left right =>
      newestFirst left.2 right.2 = true

/-- The first spelling of a new name is stale only if every spelling is. -/
def FirstSpeaks : Prop :=
  ∀ offer, firstOf catalog (offers source credentialed) (key offer) = some offer →
    ¬ Twin catalog offer.1 (canonical offer.2.1) → ¬ Bump catalog offer.1 (canonical offer.2.1) →
    Stale calendar today newSinceDays offer →
      ∀ other ∈ offers source credentialed, key other = key offer →
        Stale calendar today newSinceDays other

theorem newestFirst_trans (a b c : Option Int) (hab : newestFirst a b = true)
    (hbc : newestFirst b c = true) : newestFirst a c = true := by
  cases a <;> cases b <;> cases c <;> simp_all [newestFirst]
  omega

theorem newestFirst_total (a b : Option Int) : (newestFirst a b || newestFirst b a) = true := by
  cases a with
  | none => cases b <;> rfl
  | some left =>
      cases b with
      | none => rfl
      | some right =>
          simp only [newestFirst, Bool.or_eq_true, decide_eq_true_eq]
          omega

/-- A finding passes the window unless it is new and stale. -/
def passes (finding : Candidate × Option Int) : Bool :=
  finding.1.category ≠ .new || finding.2.all (windowStart today newSinceDays ≤ ·)

/-- What the window leaves of a scan, in the order of the report. -/
theorem filterNewByRecency_eq_some {scored : List (Candidate × Option Int)}
    {findings : List Candidate}
    (h : filterNewByRecency calendar scored today newSinceDays = some findings) :
    calendar.minDate ≤ windowStart today newSinceDays ∧
      ∃ dated : List (Candidate × Option Int), dated.map (·.1) = findings ∧
        dated.Perm (scored.filter (passes today newSinceDays)) ∧
        (dated.filter (·.1.category = .new)).Pairwise fun left right =>
          newestFirst left.2 right.2 = true := by
  unfold filterNewByRecency at h
  obtain ⟨date, is_date, rfl⟩ := Option.map_eq_some_iff.mp h
  have starts : calendar.minDate ≤ windowStart today newSinceDays ∧
      windowStart today newSinceDays = date := by
    unfold cutoff at is_date
    dsimp only at is_date
    split at is_date
    · next in_calendar =>
        cases is_date
        exact ⟨in_calendar, rfl⟩
    · cases is_date
  obtain ⟨in_calendar, rfl⟩ := starts
  refine ⟨in_calendar, _, rfl, ?_, ?_⟩
  · refine ((mergeSort_perm _ _).append_left _).trans ?_
    rw [filter_filter]
    have split := filter_append_perm
      (fun finding : Candidate × Option Int => decide (finding.1.category ≠ .new))
      (scored.filter (passes today newSinceDays))
    rw [filter_filter, filter_filter] at split
    refine (List.Perm.of_eq ?_).trans split
    congr 1
    · refine filter_congr fun finding _ => ?_
      by_cases new : finding.1.category = .new
      · simp [new]
      · simp [new, passes]
    · refine filter_congr fun finding _ => ?_
      by_cases new : finding.1.category = .new
      · simp [new, passes]
      · simp [new]
  · rw [filter_append]
    have others : ((scored.filter (·.1.category ≠ .new)).filter (·.1.category = .new)) = [] := by
      rw [filter_filter, filter_eq_nil_iff]
      intro finding _
      simp
    rw [others, nil_append]
    exact (pairwise_mergeSort (fun a b c => newestFirst_trans a.2 b.2 c.2)
      (fun a b => newestFirst_total a.2 b.2) _).filter _

/-- The window is a day of the calendar. -/
theorem filterNewByRecency_isSome (scored : List (Candidate × Option Int))
    (in_calendar : calendar.minDate ≤ windowStart today newSinceDays) :
    ∃ findings, filterNewByRecency calendar scored today newSinceDays = some findings := by
  unfold filterNewByRecency
  have in_window : cutoff calendar today newSinceDays = some (windowStart today newSinceDays) := by
    unfold cutoff
    exact if_pos in_calendar
  rw [in_window]
  exact ⟨_, rfl⟩

theorem ofKey_found (offer : Offer) (of : String × String) :
    ofKey of (found calendar catalog offer).1 = decide (key offer = of) := by
  obtain ⟨provider, model, -, -⟩ := classify_cases calendar catalog offer.1 offer.2.1
    (canonical offer.2.1) (offer.2.2.release calendar)
  unfold ofKey found key
  rw [provider, model]

/-- Exactly the new and stale findings are aged out. -/
theorem passes_found_iff (offer : Offer) :
    passes today newSinceDays (found calendar catalog offer) = true ↔
      Twin catalog offer.1 (canonical offer.2.1) ∨ Bump catalog offer.1 (canonical offer.2.1) ∨
        ¬ Stale calendar today newSinceDays offer := by
  obtain ⟨-, -, twin, bump⟩ := classify_cases calendar catalog offer.1 offer.2.1
    (canonical offer.2.1) (offer.2.2.release calendar)
  have dated : (offer.2.2.release calendar).all (windowStart today newSinceDays ≤ ·) = true ↔
      ¬ Stale calendar today newSinceDays offer := by
    unfold Stale
    cases offer.2.2.release calendar <;> simp
  unfold passes found
  rw [Bool.or_eq_true, decide_eq_true_eq, dated]
  cases is_category : (classify calendar offer.1 offer.2.1 (canonical offer.2.1)
      (Carried.fromCatalog catalog) (offer.2.2.release calendar)).category with
  | crossCloud =>
      rw [is_category] at twin
      simp [twin.mp rfl]
  | versionBump =>
      rw [is_category] at bump
      simp [(bump.mp rfl).2]
  | new =>
      rw [is_category] at twin bump
      have no_twin : ¬ Twin catalog offer.1 (canonical offer.2.1) := by simpa using twin
      have no_bump : ¬ Bump catalog offer.1 (canonical offer.2.1) := by simpa [no_twin] using bump
      simp [no_twin, no_bump]

section Kept

variable {calendar catalog source credentialed today newSinceDays} {kept : List Offer}
  {scanned : Findings} {dated : List (Candidate × Option Int)}

/-- The findings of a name are the kept offers of it that pass the window. -/
theorem countP_ofKey (h : Scanned calendar catalog (offers source credentialed) kept scanned)
    (perm : dated.Perm (scanned.scored.filter (passes today newSinceDays)))
    (of : String × String) :
    (dated.map (·.1)).countP (ofKey of) =
      kept.countP fun offer => decide (key offer = of) &&
        passes today newSinceDays (found calendar catalog offer) := by
  rw [countP_map, perm.countP_eq, countP_filter, h.scored, countP_map]
  refine countP_congr fun offer _ => ?_
  simp only [Function.comp_apply, ofKey_found]

theorem countP_ofKey_le (h : Scanned calendar catalog (offers source credentialed) kept scanned)
    (perm : dated.Perm (scanned.scored.filter (passes today newSinceDays)))
    (of : String × String) : (dated.map (·.1)).countP (ofKey of) ≤ 1 := by
  have once := nodup_iff_count_le_one.mp h.once of
  rw [List.count, countP_map] at once
  rw [countP_ofKey h perm]
  refine le_trans (countP_mono_left fun offer _ is_of => ?_) once
  rw [Bool.and_eq_true, decide_eq_true_eq] at is_of
  simpa using is_of.1

/-- A kept offer is listed, and is of no other name than its own. -/
theorem mem_offers_of_kept
    (h : Scanned calendar catalog (offers source credentialed) kept scanned) {offer : Offer}
    (mem : offer ∈ kept) :
    offer ∈ offers source credentialed ∧ eligible catalog offer = true := by
  have first := h.first offer mem
  unfold firstOf at first
  have holds := find?_some first
  rw [Bool.and_eq_true] at holds
  exact ⟨mem_of_find?_eq_some first, holds.1⟩

/-- Every finding of the report comes of a kept offer. -/
theorem exists_kept_of_finding
    (h : Scanned calendar catalog (offers source credentialed) kept scanned)
    (perm : dated.Perm (scanned.scored.filter (passes today newSinceDays)))
    {finding : Candidate × Option Int} (mem : finding ∈ dated) :
    ∃ offer ∈ kept, found calendar catalog offer = finding := by
  have mem := mem_of_mem_filter (perm.mem_iff.mp mem)
  rw [h.scored] at mem
  exact mem_map.mp mem

end Kept

/-- The report keeps its promises where every new name's first spelling speaks for the others. -/
theorem reports_of_firstSpeaks
    (in_calendar : calendar.minDate ≤ windowStart today newSinceDays)
    (speaks : FirstSpeaks calendar catalog source credentialed today newSinceDays) :
    ∃ findings,
      discover calendar catalog source credentialed today newSinceDays = some findings ∧
      Reports calendar catalog source credentialed today newSinceDays findings := by
  obtain ⟨kept, h⟩ := scanned_scan calendar catalog source credentialed
  obtain ⟨findings, reported⟩ := filterNewByRecency_isSome calendar today newSinceDays
    (scan calendar catalog source credentialed).scored in_calendar
  obtain ⟨-, dated, rfl, perm, newest⟩ :=
    filterNewByRecency_eq_some calendar today newSinceDays reported
  refine ⟨_, reported, ?_, ?_, ?_, dated, rfl, ?_, newest⟩
  · intro offer listed is_eligible actionable
    refine le_antisymm (countP_ofKey_le h perm _) ?_
    rw [countP_ofKey h perm, Nat.succ_le_iff, countP_pos_iff]
    obtain ⟨first, is_kept, same⟩ := mem_map.mp (h.all offer listed is_eligible)
    refine ⟨first, is_kept, ?_⟩
    rw [Bool.and_eq_true, decide_eq_true_eq]
    refine ⟨same, (passes_found_iff ..).mpr ?_⟩
    have names : first.1 = offer.1 ∧ canonical first.2.1 = canonical offer.2.1 := by
      simpa [key] using same
    rw [names.1, names.2]
    by_cases twin : Twin catalog offer.1 (canonical offer.2.1)
    · exact .inl twin
    by_cases bump : Bump catalog offer.1 (canonical offer.2.1)
    · exact .inr (.inl bump)
    -- a stale first spelling would make every other stale
    refine .inr (.inr fun stale => ?_)
    obtain ⟨other, other_listed, other_same, fresh⟩ :=
      (actionable.resolve_left twin).resolve_left bump
    refine fresh (speaks first (h.first first is_kept) ?_ ?_ stale other other_listed
      (other_same.trans same.symm))
    · rw [names.1, names.2]
      exact twin
    · rw [names.1, names.2]
      exact bump
  · exact countP_ofKey_le h perm
  · intro finding mem
    obtain ⟨scored, in_report, rfl⟩ := mem_map.mp mem
    obtain ⟨offer, -, rfl⟩ := exists_kept_of_finding h perm in_report
    obtain ⟨provider, model, twin, bump⟩ := classify_cases calendar catalog offer.1 offer.2.1
      (canonical offer.2.1) (offer.2.2.release calendar)
    unfold found
    rw [provider, model]
    exact ⟨twin, bump⟩
  · intro finding mem
    obtain ⟨offer, is_kept, rfl⟩ := exists_kept_of_finding h perm mem
    obtain ⟨provider, model, -, -⟩ := classify_cases calendar catalog offer.1 offer.2.1
      (canonical offer.2.1) (offer.2.2.release calendar)
    exact ⟨offer, (mem_offers_of_kept h is_kept).1, provider.symm, model.symm, rfl⟩

/-- A stale first spelling is aged out, so where the report is complete every spelling is stale. -/
theorem firstSpeaks_of_reports {findings : List Candidate}
    (reported : discover calendar catalog source credentialed today newSinceDays = some findings)
    (h : Reports calendar catalog source credentialed today newSinceDays findings) :
    FirstSpeaks calendar catalog source credentialed today newSinceDays := by
  obtain ⟨kept, scanned⟩ := scanned_scan calendar catalog source credentialed
  obtain ⟨-, dated, rfl, perm, -⟩ :=
    filterNewByRecency_eq_some calendar today newSinceDays reported
  intro offer first no_twin no_bump stale other listed same
  by_contra fresh
  have holds := find?_some first
  rw [Bool.and_eq_true] at holds
  have one := h.complete offer (mem_of_find?_eq_some first) holds.1
    (.inr (.inr ⟨other, listed, same, fresh⟩))
  rw [countP_ofKey scanned perm] at one
  obtain ⟨reporter, is_kept, is_of⟩ :=
    countP_pos_iff.mp (one ▸ Nat.one_pos : 0 < kept.countP _)
  rw [Bool.and_eq_true, decide_eq_true_eq] at is_of
  have is_first := scanned.first reporter is_kept
  rw [is_of.1, first] at is_first
  cases is_first
  exact ((passes_found_iff ..).mp is_of.2).elim no_twin
    fun rest => rest.elim no_bump fun not_stale => not_stale stale

/-- Discovery returns a report that misses nothing exactly where the window starts within the
    calendar, and no new name's first spelling is stale before another of its spellings. -/
theorem discover_reports_iff :
    (∃ findings,
      discover calendar catalog source credentialed today newSinceDays = some findings ∧
      Reports calendar catalog source credentialed today newSinceDays findings) ↔
    calendar.minDate ≤ windowStart today newSinceDays ∧
      FirstSpeaks calendar catalog source credentialed today newSinceDays := by
  constructor
  · rintro ⟨findings, reported, h⟩
    exact ⟨(filterNewByRecency_eq_some calendar today newSinceDays reported).1,
      firstSpeaks_of_reports calendar catalog source credentialed today newSinceDays reported h⟩
  · rintro ⟨in_calendar, speaks⟩
    exact reports_of_firstSpeaks calendar catalog source credentialed today newSinceDays
      in_calendar speaks

/-! ### An older spelling first -/

/-- The days of three dates, counted from the first of the first year. -/
def proleptic : Calendar where
  minDate := -95746129
  parseFromStr raw :=
    if raw = "2024-01-01" then some 738886
    else if raw = "2026-06-01" then some 739768
    else none
  display date := toString date

/-- One model, listed with the date it was first shipped under one spelling and with the date of
    its relaunch under another. -/
def relaunched : List (String × SourceModel) :=
  [("anthropic.claude-nova", ⟨some ["text"], some "2024-01-01"⟩),
    ("us.anthropic.claude-nova", ⟨some ["text"], some "2026-06-01"⟩)]

def relaunchedSource : SortedMap String SourceProvider :=
  .ofList [("amazon-bedrock", ⟨.ofList relaunched⟩)]

/-- A catalog without a tier. -/
def bareCatalog : TierCatalog :=
  TierFile.catalog { schemaVersion := 1, tiers := .empty, retention := .empty }

theorem bareCatalog_carries (provider name : String) : ¬ Carries bareCatalog provider name := by
  rintro ⟨candidate, mem, -⟩
  cases mem

def launch : Offer := ("bedrock", "anthropic.claude-nova", ⟨some ["text"], some "2024-01-01"⟩)

def relaunch : Offer := ("bedrock", "us.anthropic.claude-nova", ⟨some ["text"], some "2026-06-01"⟩)

theorem offers_relaunched :
    offers relaunchedSource [("bedrock", "amazon-bedrock")] = [launch, relaunch] := rfl

theorem key_launch : key launch = ("bedrock", "claude-nova") := by decide +kernel

theorem key_relaunch : key relaunch = ("bedrock", "claude-nova") := by decide +kernel

theorem firstOf_launch :
    firstOf bareCatalog [launch, relaunch] ("bedrock", "claude-nova") = some launch := by
  decide +kernel

theorem release_launch : launch.2.2.release proleptic = some 738886 := by decide +kernel

theorem release_relaunch : relaunch.2.2.release proleptic = some 739768 := by decide +kernel

/-- Shipped within the window under one spelling, and not reported. -/
theorem not_discover_reports_relaunched :
    ¬ ∃ findings,
      discover proleptic bareCatalog relaunchedSource [("bedrock", "amazon-bedrock")] 739798 90 =
        some findings ∧
      Reports proleptic bareCatalog relaunchedSource [("bedrock", "amazon-bedrock")] 739798 90
        findings := by
  rintro ⟨findings, reported, h⟩
  have speaks := firstSpeaks_of_reports _ _ _ _ _ _ reported h
  unfold FirstSpeaks at speaks
  rw [offers_relaunched] at speaks
  have no_twin : ¬ Twin bareCatalog launch.1 (canonical launch.2.1) := by
    rintro ⟨other, -, carried⟩
    exact bareCatalog_carries _ _ carried
  have no_bump : ¬ Bump bareCatalog launch.1 (canonical launch.2.1) := by
    rintro ⟨front, version, back, -, ⟨carried, candidate, mem, -⟩, -⟩
    cases mem
  have old : Stale proleptic 739798 90 launch := ⟨738886, release_launch, by decide⟩
  obtain ⟨date, is_date, before⟩ := speaks launch (key_launch ▸ firstOf_launch) no_twin no_bump
    old relaunch (by simp) (key_relaunch.trans key_launch.symm)
  rw [release_relaunch] at is_date
  cases is_date
  exact absurd before (by decide)

end Report

end ZeroRouter.Discover
