import ZeroRouter.Proofs.Bill
import Mathlib.Order.Bounds.Basic

/-!
# The dearest of several schedules

Schedules that reprice at the same sizes apply the table at one position, whatever the
prompt.  `dearest_across` reconciles them position by position, so at every prompt it
bills, in each dimension, what the dearest member bills.
-/

namespace ZeroRouter

open List

namespace RateSchedule

variable {other : List ModelRates} {schedules : List RateSchedule} {rates : ModelRates}
  {usage : OpenAiUsage} {cost : Decimal}

/-! ## Which table applies -/

/-- The position of the table a prompt selects: the last of the highest thresholds not
    above it. -/
def bandOf : List Nat → Nat → Option Nat
  | [], _ => none
  | threshold :: rest, promptTokens =>
      match bandOf rest promptTokens with
      | none => if threshold ≤ promptTokens then some 0 else none
      | some later =>
          if threshold ≤ promptTokens ∧ rest.getD later 0 < threshold then some 0
          else some (later + 1)

theorem bandOf_lt {thresholds : List Nat} {promptTokens band : Nat}
    (h : bandOf thresholds promptTokens = some band) : band < thresholds.length := by
  induction thresholds generalizing band with
  | nil => cases h
  | cons threshold rest ih =>
      unfold bandOf at h
      cases later : bandOf rest promptTokens with
      | none =>
          simp only [later] at h
          split at h
          · cases h
            simp
          · cases h
      | some found =>
          have inside := ih later
          simp only [later] at h
          split at h
          · cases h
            simp
          · cases h
            simpa using inside

theorem highestThreshold_filter (tables : List ConditionalRate) (promptTokens : Nat) :
    highestThreshold (tables.filter fun table => table.minPromptTokens ≤ promptTokens) =
      (bandOf (tables.map (·.minPromptTokens)) promptTokens).bind (tables[·]?) := by
  induction tables with
  | nil => rfl
  | cons table rest ih =>
      rw [filter_cons, map_cons]
      unfold bandOf
      cases later : bandOf (rest.map (·.minPromptTokens)) promptTokens with
      | none =>
          rw [later, Option.bind_none] at ih
          by_cases applies : table.minPromptTokens ≤ promptTokens
          · simp [applies, highestThreshold, ih]
          · simp [applies, ih]
      | some band =>
          have inside := bandOf_lt later
          rw [length_map] at inside
          rw [later, Option.bind_some, getElem?_eq_getElem inside] at ih
          by_cases applies : table.minPromptTokens ≤ promptTokens
          · by_cases higher : (rest.get ⟨band, inside⟩).minPromptTokens < table.minPromptTokens
            · have notBelow := not_le.mpr higher
              simp only [get_eq_getElem] at higher notBelow
              simp [applies, highestThreshold, ih, inside, higher, notBelow]
            · have below := not_lt.mp higher
              simp only [get_eq_getElem] at higher below
              simp [applies, highestThreshold, ih, inside, higher, below]
          · simp [applies, ih, inside]

/-- The table that applies is the one at the position the thresholds select. -/
theorem atPromptTokens_eq (schedule : RateSchedule) (promptTokens : Nat) :
    schedule.atPromptTokens promptTokens =
      ((bandOf schedule.thresholds promptTokens).bind (schedule.conditional[·]?)).elim
        schedule.base (·.rates) := by
  unfold atPromptTokens
  by_cases flat : schedule.conditional.isEmpty = true
  · rw [if_pos flat]
    have : schedule.conditional = [] := isEmpty_iff.mp flat
    simp [this]
  · rw [if_neg flat, highestThreshold_filter]
    rfl

section Across

variable {first : RateSchedule} {rest : List RateSchedule} {unified : RateSchedule}

theorem dearestAcross_thresholds (h : dearestAcross (first :: rest) = some unified) :
    unified.thresholds = first.thresholds := by
  obtain ⟨-, -, bands⟩ := dearestAcross_cons h
  unfold thresholds
  rw [bands, map_map]
  apply ext_getElem
  · simp
  · intro band _ _
    simp

/-- At every prompt the reconciled schedule applies its members' tables, reconciled. -/
theorem dearestAcross_at (h : dearestAcross (first :: rest) = some unified)
    (promptTokens : Nat) :
    unified.atPromptTokens promptTokens =
      reconcile ((first :: rest).map (·.atPromptTokens promptTokens)) := by
  obtain ⟨same, base, bands⟩ := dearestAcross_cons h
  rw [atPromptTokens_eq, dearestAcross_thresholds h]
  cases selected : bandOf first.thresholds promptTokens with
  | none =>
      have members : (first :: rest).map (·.atPromptTokens promptTokens) =
          (first :: rest).map (·.base) := by
        apply map_congr_left
        intro member mem
        rw [atPromptTokens_eq, same member mem, selected]
        rfl
      rw [members]
      exact base
  | some band =>
      have inside : ∀ member ∈ first :: rest, band < member.conditional.length := by
        intro member mem
        have lt := bandOf_lt selected
        rw [← same member mem] at lt
        simpa [thresholds] using lt
      have members : (first :: rest).map (·.atPromptTokens promptTokens) =
          bandTables (first :: rest) band := by
        unfold bandTables
        rw [← filterMap_eq_map]
        apply filterMap_congr
        intro member mem
        simp [atPromptTokens_eq, same member mem, selected, inside member mem]
      have here := inside first mem_cons_self
      rw [members, bands]
      simp [here]

end Across

/-! ## The dearest of each dimension -/

section Reconcile

variable {tables : List ModelRates}

/-- A reconciled optional dimension is billed at some table's billed rate. -/
theorem reconcile_attained (declared : ModelRates → Option Decimal) {top : Decimal}
    (h : (dearestAmong tables declared (fun rates => (declared rates).or rates.inputPerMtok)
      true).or (dearestAmong tables (·.inputPerMtok) (·.inputPerMtok) false) = some top) :
    ∃ table ∈ tables, (declared table).or table.inputPerMtok = some top := by
  rcases Option.or_eq_some_iff.mp h with own | ⟨absent, fallback⟩
  · exact dearestAmong_eq_some declared _ true own
  · obtain ⟨table, mem, input⟩ := dearestAmong_eq_some _ _ false fallback
    refine ⟨table, mem, ?_⟩
    -- were the dimension declared by any table, the reconciled one would be
    have undeclared : declared table = none := by
      by_contra some
      obtain ⟨rate, own⟩ := Option.ne_none_iff_exists'.mp some
      obtain ⟨found, present, -⟩ := le_dearestAmong declared
        (fun rates => (declared rates).or rates.inputPerMtok) true mem
        (show (declared table).or table.inputPerMtok = Option.some rate by rw [own, Option.some_or])
        (fun _ => ⟨table, mem, Option.isSome_iff_ne_none.mpr some⟩)
      rw [present] at absent
      cases absent
    rw [undeclared, Option.none_or]
    exact input

/-- In each dimension reconciling bills the greatest of what the tables bill. -/
theorem isGreatest_reconcile (nonempty : tables ≠ [])
    (declared : ∀ table ∈ tables, table.Declared) :
    IsGreatest {rate | ∃ table ∈ tables, table.inputRate = rate} (reconcile tables).inputRate ∧
    IsGreatest {rate | ∃ table ∈ tables, table.outputRate = rate} (reconcile tables).outputRate ∧
    IsGreatest {rate | ∃ table ∈ tables, table.cachedRate = rate} (reconcile tables).cachedRate ∧
    IsGreatest {rate | ∃ table ∈ tables, table.writeRate = rate} (reconcile tables).writeRate := by
  obtain ⟨some, mem⟩ := exists_mem_of_ne_nil tables nonempty
  obtain ⟨input, hinput⟩ := (declared some mem).input
  obtain ⟨output, houtput⟩ := (declared some mem).output
  obtain ⟨topInput, htopInput, -⟩ :=
    le_dearestAmong (·.inputPerMtok) (·.inputPerMtok) false mem hinput (by simp)
  obtain ⟨topOutput, htopOutput, -⟩ :=
    le_dearestAmong (·.outputPerMtok) (·.outputPerMtok) false mem houtput (by simp)
  obtain ⟨cached, hcached⟩ := (declared some mem).effective some.cachedInputPerMtok
  obtain ⟨write, hwrite⟩ := (declared some mem).effective some.cacheWritePerMtok
  obtain ⟨topCached, htopCached, -⟩ := reconcile_effective (·.cachedInputPerMtok) mem hcached
  obtain ⟨topWrite, htopWrite, -⟩ := reconcile_effective (·.cacheWritePerMtok) mem hwrite
  refine ⟨⟨?_, ?_⟩, ⟨?_, ?_⟩, ⟨?_, ?_⟩, ⟨?_, ?_⟩⟩
  · obtain ⟨table, there, attained⟩ := dearestAmong_eq_some _ _ false htopInput
    refine ⟨table, there, ?_⟩
    simp [ModelRates.inputRate, reconcile, attained, htopInput]
  · rintro rate ⟨table, there, rfl⟩
    exact (atMost_reconcile there (declared table there)).input
  · obtain ⟨table, there, attained⟩ := dearestAmong_eq_some _ _ false htopOutput
    refine ⟨table, there, ?_⟩
    simp [ModelRates.outputRate, reconcile, attained, htopOutput]
  · rintro rate ⟨table, there, rfl⟩
    exact (atMost_reconcile there (declared table there)).output
  · obtain ⟨table, there, attained⟩ := reconcile_attained (·.cachedInputPerMtok) htopCached
    have own : table.effectiveCachedInputPerMtok = Option.some topCached := attained
    have top : (reconcile tables).effectiveCachedInputPerMtok = Option.some topCached := htopCached
    exact ⟨table, there, by rw [ModelRates.cachedRate, ModelRates.cachedRate, own, top]⟩
  · rintro rate ⟨table, there, rfl⟩
    exact (atMost_reconcile there (declared table there)).cached
  · obtain ⟨table, there, attained⟩ := reconcile_attained (·.cacheWritePerMtok) htopWrite
    have own : table.effectiveCacheWritePerMtok = Option.some topWrite := attained
    have top : (reconcile tables).effectiveCacheWritePerMtok = Option.some topWrite := htopWrite
    exact ⟨table, there, by rw [ModelRates.writeRate, ModelRates.writeRate, own, top]⟩
  · rintro rate ⟨table, there, rfl⟩
    exact (atMost_reconcile there (declared table there)).write

/-! ## The order of the members -/

theorem dearestAmong_perm (perm : tables.Perm other)
    (declared effective : ModelRates → Option Decimal) (optional : Bool) :
    dearestAmong tables declared effective optional =
      dearestAmong other declared effective optional := by
  have anyone : (tables.any fun rates => (declared rates).isSome) =
      other.any fun rates => (declared rates).isSome := by
    rw [Bool.eq_iff_iff, any_eq_true, any_eq_true]
    simp only [perm.mem_iff]
  have folded := (perm.filterMap effective).foldl_eq'
    (f := fun (found : Option Decimal) rate => Option.some (found.elim rate (max · rate)))
    (fun x _ y _ found => by
      cases found with
      | none => simp [max_comm]
      | some seen => simp [max_assoc, max_comm y x]) none
  unfold dearestAmong
  rw [anyone, folded]

theorem reconcile_perm (perm : tables.Perm other) :
    reconcile tables = reconcile other := by
  unfold reconcile
  simp only [dearestAmong_perm perm]

/-- One table is reconciled to itself. -/
theorem reconcile_singleton (table : ModelRates) : reconcile [table] = table := by
  obtain ⟨input, output, cached, write⟩ := table
  cases input <;> cases output <;> cases cached <;> cases write <;> rfl

end Reconcile

/-- There is nothing to reconcile, or no common bands to reconcile within. -/
theorem dearestAcross_eq_none :
    dearestAcross schedules = none ↔
      schedules = [] ∨ ∃ member ∈ schedules, ∃ other ∈ schedules,
        member.thresholds ≠ other.thresholds := by
  cases schedules with
  | nil => simp [dearestAcross]
  | cons first rest =>
      simp only [dearestAcross]
      by_cases differ : ((first :: rest).any fun schedule =>
          schedule.thresholds ≠ first.thresholds) = true
      · obtain ⟨member, mem, apart⟩ := any_eq_true.mp differ
        simp only [if_pos differ, true_iff]
        exact .inr ⟨member, mem, first, mem_cons_self, by simpa using apart⟩
      · simp only [if_neg differ, reduceCtorEq, false_iff, not_or]
        refine ⟨not_false, ?_⟩
        have same : ∀ member ∈ first :: rest, member.thresholds = first.thresholds := by
          simpa using differ
        rintro ⟨member, mem, other, mem', apart⟩
        exact apart ((same member mem).trans (same other mem').symm)

/-- The members' order does not matter. -/
theorem dearestAcross_perm {other : List RateSchedule} (perm : schedules.Perm other) :
    dearestAcross schedules = dearestAcross other := by
  cases reconciled : dearestAcross schedules with
  | none =>
      symm
      rw [dearestAcross_eq_none] at reconciled ⊢
      rcases reconciled with empty | ⟨member, mem, there, mem', apart⟩
      · left
        rw [empty] at perm
        exact perm.nil_eq.symm
      · exact .inr ⟨member, perm.mem_iff.mp mem, there, perm.mem_iff.mp mem', apart⟩
  | some unified =>
      cases reconciled' : dearestAcross other with
      | none =>
          have none := dearestAcross_eq_none.mp reconciled'
          have refused : dearestAcross schedules = Option.none := by
            rw [dearestAcross_eq_none]
            rcases none with empty | ⟨member, mem, there, mem', apart⟩
            · left
              rw [empty] at perm
              exact perm.eq_nil
            · exact .inr ⟨member, perm.mem_iff.mpr mem, there, perm.mem_iff.mpr mem', apart⟩
          rw [refused] at reconciled
          cases reconciled
      | some unified' =>
          cases schedules with
          | nil => cases reconciled
          | cons first rest =>
              cases other with
              | nil => cases reconciled'
              | cons first' rest' =>
                  obtain ⟨same, base, bands⟩ := dearestAcross_cons reconciled
                  obtain ⟨same', base', bands'⟩ := dearestAcross_cons reconciled'
                  have thresholds := same first' (perm.mem_iff.mpr mem_cons_self)
                  have sameBase : unified.base = unified'.base := by
                    rw [base, base']
                    exact reconcile_perm (perm.map _)
                  have sameBands : unified.conditional = unified'.conditional := by
                    have length : first.conditional.length = first'.conditional.length := by
                      simpa [RateSchedule.thresholds] using (congrArg List.length thresholds).symm
                    rw [bands, bands']
                    apply ext_getElem
                    · simp [length]
                    · intro band inside inside'
                      have sizes := congrArg (·[band]?) thresholds
                      have here : band < first.conditional.length := by simpa using inside
                      have there : band < first'.conditional.length := by simpa using inside'
                      simp only [RateSchedule.thresholds, getElem?_map,
                        getElem?_eq_getElem here, getElem?_eq_getElem there,
                        Option.map_some, Option.some.injEq] at sizes
                      simp only [getElem_map, getElem_zipIdx, Nat.zero_add, sizes]
                      have banded : (bandTables (first :: rest) band).Perm
                          (bandTables (first' :: rest') band) := perm.filterMap _
                      rw [reconcile_perm banded]
                  obtain ⟨_, _⟩ := unified
                  obtain ⟨_, _⟩ := unified'
                  simp only at sameBase sameBands
                  rw [sameBase, sameBands]

/-- A single schedule is reconciled to itself. -/
theorem dearestAcross_singleton (schedule : RateSchedule) :
    dearestAcross [schedule] = some schedule := by
  have bands : (schedule.conditional.zipIdx.map fun table =>
      { minPromptTokens := table.1.minPromptTokens
        rates := reconcile (bandTables [schedule] table.2) }) = schedule.conditional := by
    apply ext_getElem
    · simp
    · intro band _ inside
      have one : bandTables [schedule] band = [(schedule.conditional[band]).rates] := by
        simp [bandTables, inside]
      simp only [getElem_map, getElem_zipIdx, Nat.zero_add, one, reconcile_singleton]
  simp only [dearestAcross, any_cons, any_nil, map_cons, map_nil,
    reconcile_singleton, bands]
  simp

/-- A schedule whose every table states its two required rates. -/
def Declared (schedule : RateSchedule) : Prop := ∀ table ∈ schedule.tables, table.Declared

end RateSchedule

theorem billableRate_of_some {rate billed : Decimal} (h : billableRate rate = some billed) :
    (billableRate rate).isSome := by
  rw [h]
  rfl

/-- What is priced was priced at rates `billable_rate` takes. -/
theorem roundedUsageCost_priced (h : roundedUsageCost rates usage = some cost) : rates.Priced := by
  unfold roundedUsageCost at h
  simp only [Option.bind_eq_bind, Option.bind_eq_some_iff] at h
  obtain ⟨_, input, _, output, _, cached, _, write, -⟩ := h
  rw [← ModelRates.cachedRate_eq] at cached
  rw [← ModelRates.writeRate_eq] at write
  exact ⟨billableRate_of_some input, billableRate_of_some output, billableRate_of_some cached,
    billableRate_of_some write⟩

/-- At tables no dearer in any dimension, no usage costs more. -/
theorem roundedUsageCost_mono {other : ModelRates} (h : rates.AtMost other)
    (counted : usage.Counted) {dearer : Decimal}
    (hcost : roundedUsageCost rates usage = some cost)
    (hdearer : roundedUsageCost other usage = some dearer) : cost ≤ dearer := by
  have priced := roundedUsageCost_priced hcost
  obtain ⟨_, hcost', ⟨billed⟩⟩ := roundedUsageCost_billed priced counted
  obtain ⟨_, hdearer', ⟨billed'⟩⟩ :=
    roundedUsageCost_billed (roundedUsageCost_priced hdearer) counted
  cases hcost.symm.trans hcost'
  cases hdearer.symm.trans hdearer'
  exact ModelRates.bill_mono billed billed' priced.bounded h (le_refl _) (le_refl _) (le_refl _)
    (le_refl _)

/-- Of schedules that state their required rates in every band: what `dearest_across`
    returns bills no usage less than any of them, and prices every usage where they do;
    at every prompt it bills in each dimension the greatest of what they bill; it is the
    same for every order of them; one schedule is returned as it is; and there is none
    exactly for no schedules, or where two differ in where they reprice. -/
theorem dearest_across_least {schedules : List RateSchedule}
    (declared : ∀ member ∈ schedules, member.Declared) :
    (∀ unified, RateSchedule.dearestAcross schedules = some unified →
      (∀ member ∈ schedules, ∀ usage : OpenAiUsage, usage.Counted → ∀ cost dearer,
        roundedUsageCost (member.atPromptTokens usage.promptTokens) usage = some cost →
        roundedUsageCost (unified.atPromptTokens usage.promptTokens) usage = some dearer →
        cost ≤ dearer) ∧
      ((∀ member ∈ schedules, member.Valid) → ∀ usage : OpenAiUsage, usage.Counted →
        ∃ dearer, roundedUsageCost (unified.atPromptTokens usage.promptTokens) usage =
          some dearer) ∧
      ∀ promptTokens,
        IsGreatest {rate | ∃ member ∈ schedules,
          (member.atPromptTokens promptTokens).inputRate = rate}
          (unified.atPromptTokens promptTokens).inputRate ∧
        IsGreatest {rate | ∃ member ∈ schedules,
          (member.atPromptTokens promptTokens).outputRate = rate}
          (unified.atPromptTokens promptTokens).outputRate ∧
        IsGreatest {rate | ∃ member ∈ schedules,
          (member.atPromptTokens promptTokens).cachedRate = rate}
          (unified.atPromptTokens promptTokens).cachedRate ∧
        IsGreatest {rate | ∃ member ∈ schedules,
          (member.atPromptTokens promptTokens).writeRate = rate}
          (unified.atPromptTokens promptTokens).writeRate) ∧
    (∀ other, schedules.Perm other →
      RateSchedule.dearestAcross schedules = RateSchedule.dearestAcross other) ∧
    (∀ member ∈ schedules, RateSchedule.dearestAcross [member] = some member) ∧
    (RateSchedule.dearestAcross schedules = none ↔
      schedules = [] ∨ ∃ member ∈ schedules, ∃ other ∈ schedules,
        member.thresholds ≠ other.thresholds) := by
  refine ⟨?_, fun other perm => RateSchedule.dearestAcross_perm perm,
    fun member _ => RateSchedule.dearestAcross_singleton member,
    RateSchedule.dearestAcross_eq_none⟩
  intro unified reconciled
  cases schedules with
  | nil => cases reconciled
  | cons first rest =>
      have applied := RateSchedule.dearestAcross_at reconciled
      have tables : ∀ promptTokens, ∀ table ∈
          (first :: rest).map (·.atPromptTokens promptTokens), table.Declared := by
        intro promptTokens table mem
        obtain ⟨member, there, rfl⟩ := List.mem_map.mp mem
        exact declared member there _ (member.atPromptTokens_mem promptTokens)
      refine ⟨?_, ?_, ?_⟩
      · intro member mem usage counted cost dearer hcost hdearer
        rw [applied] at hdearer
        have listed := List.mem_map_of_mem (f := (·.atPromptTokens usage.promptTokens)) mem
        exact roundedUsageCost_mono
          (RateSchedule.atMost_reconcile listed (tables usage.promptTokens _ listed)) counted hcost
          hdearer
      · intro valid usage counted
        have priced := ((RateSchedule.dearestAcross_valid reconciled valid).atPromptTokens
          usage.promptTokens).priced
        obtain ⟨dearer, hdearer, -⟩ := roundedUsageCost_billed priced counted
        exact ⟨dearer, hdearer⟩
      · intro promptTokens
        have greatest := RateSchedule.isGreatest_reconcile (by simp) (tables promptTokens)
        rw [← applied] at greatest
        simpa only [List.mem_map, exists_exists_and_eq_and] using greatest

/-! Of two schedules the one that omits its cached rate is the dearer at it. -/

def omitsCached : RateSchedule := .flat
  { inputPerMtok := some 3, outputPerMtok := some 10, cachedInputPerMtok := none,
    cacheWritePerMtok := none }

def statesCached : RateSchedule := .flat
  { inputPerMtok := some 2, outputPerMtok := some 12, cachedInputPerMtok := some (1 / 2),
    cacheWritePerMtok := none }

theorem dearest_across_least_omitsCached :
    ∃ unified, RateSchedule.dearestAcross [omitsCached, statesCached] = some unified ∧
      (unified.atPromptTokens 0).cachedRate = 3 := by
  have declared : ∀ member ∈ [omitsCached, statesCached], member.Declared := by
    intro member mem table listed
    simp only [List.mem_cons, List.not_mem_nil, or_false] at mem
    rcases mem with rfl | rfl
    · have base : table = omitsCached.base := RateSchedule.tables_of_flat rfl listed
      subst base
      exact ⟨⟨3, rfl⟩, ⟨10, rfl⟩⟩
    · have base : table = statesCached.base := RateSchedule.tables_of_flat rfl listed
      subst base
      exact ⟨⟨2, rfl⟩, ⟨12, rfl⟩⟩
  obtain ⟨undercuts, -, -, absent⟩ := dearest_across_least declared
  cases reconciled : RateSchedule.dearestAcross [omitsCached, statesCached] with
  | none =>
      rcases absent.mp reconciled with empty | ⟨member, mem, other, mem', apart⟩
      · cases empty
      · simp only [List.mem_cons, List.not_mem_nil, or_false] at mem mem'
        rcases mem with rfl | rfl <;> rcases mem' with rfl | rfl <;> exact absurd rfl apart
  | some unified =>
      obtain ⟨-, -, greatest⟩ := undercuts unified reconciled
      have cached := (greatest 0).2.2.1
      refine ⟨unified, rfl, le_antisymm ?_ (cached.2 ⟨omitsCached, by simp, by decide +kernel⟩)⟩
      obtain ⟨member, mem, attained⟩ := cached.1
      simp only [List.mem_cons, List.not_mem_nil, or_false] at mem
      rw [← attained]
      rcases mem with rfl | rfl <;> decide +kernel

end ZeroRouter
