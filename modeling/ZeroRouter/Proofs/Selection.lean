import ZeroRouter.Api.Selection
import ZeroRouter.Lib.Lexicographic
import ZeroRouter.Proofs.Assembly
import ZeroRouter.Proofs.Skips

/-!
# Ordering is a stable lexicographic order

The rungs of a route are followed by their places in the table: every pass of the ordering permutes
the places, and what it read for a rung becomes a signal of the rung's place.
-/

namespace ZeroRouter.Selection

open List Ordered

variable {candidates : List ProviderCandidate}

/-- The places of a table, in its order. -/
abbrev Place (candidates : List ProviderCandidate) : Type := Fin candidates.length

/-- The rungs at some places. -/
def rungsAt (candidates : List ProviderCandidate) (places : List (Place candidates)) :
    List ProviderCandidate :=
  places.map candidates.get

theorem rungsAt_all : rungsAt candidates (List.finRange candidates.length) = candidates := by
  unfold rungsAt
  exact map_get_finRange candidates

theorem filter_rungsAt (test : ProviderCandidate → Bool) (places : List (Place candidates)) :
    (rungsAt candidates places).filter test =
      rungsAt candidates (places.filter fun place => test (candidates.get place)) := by
  unfold rungsAt
  rw [filter_map]
  rfl

/-- What is read for the rungs of distinct places is a signal of the places. -/
theorem tagged_rungsAt {β : Type} (read : Nat → TierCandidate → β)
    {places : List (Place candidates)} (nodup : places.Nodup) :
    tagged read (rungsAt candidates places) = places.map fun place =>
      (read (places.idxOf place) (candidates.get place).definition, candidates.get place) := by
  unfold tagged rungsAt
  refine ext_getElem (by simp) ?_
  intro index before after
  simp only [length_map, length_zipIdx] at before
  simp [nodup.idxOf_getElem]

/-- A partition of the rungs by what is read for each. -/
theorem partition_tagged {β : Type} (read : Nat → TierCandidate → β) (test : β → Bool)
    {places : List (Place candidates)} (nodup : places.Nodup) :
    ((tagged read (rungsAt candidates places)).filter fun rung => test rung.1).map (·.2) =
      rungsAt candidates (places.filter fun place =>
        test (read (places.idxOf place) (candidates.get place).definition)) := by
  rw [tagged_rungsAt read nodup, filter_map, map_map]
  rfl

/-! ## The passes -/

/-- The health pass puts a verdict of each place in front of the order there was. -/
theorem partitionByHealth_places {κ : Type} [LinearOrder κ] (health : HealthReads)
    {key : Place candidates → κ} {places : List (Place candidates)} (nodup : places.Nodup)
    (sorted : places.Pairwise (Before key)) :
    ∃ (order : List (Place candidates)) (demoted : Place candidates → Bool),
      order.Perm places ∧
      partitionByHealth health (rungsAt candidates places) = rungsAt candidates order ∧
      (∀ place, ∃ read, demoted place =
        health.shouldSkip read (candidates.get place).definition) ∧
      order.Pairwise (Before fun place => toLex (demoted place, key place)) := by
  let demoted place :=
    health.shouldSkip (places.idxOf place) (candidates.get place).definition
  refine ⟨places.filter (!demoted ·) ++ places.filter demoted, demoted, ?_, ?_, ?_, ?_⟩
  · have split := filter_append_perm (fun place => !demoted place) places
    simpa only [Bool.not_not] using split
  · unfold partitionByHealth
    dsimp only
    have healthy := partition_tagged health.shouldSkip (fun verdict => !verdict) nodup
    have sunk := partition_tagged health.shouldSkip (fun verdict => verdict) nodup
    unfold rungsAt at healthy sunk ⊢
    rw [map_append]
    exact congrArg₂ (· ++ ·) healthy sunk
  · exact fun place => ⟨_, rfl⟩
  · have passes := pairwise_partition (fun place => !demoted place) sorted
    simpa only [Bool.not_not] using passes

section Cost

variable {Tokens Cost : Type} [LinearOrder Cost] (estimates : CostContext Tokens Cost)

/-- The place of a price in the order: none for a free rung, and none for any rung while a rung that
    costs something has no estimate. -/
def price (free : Place candidates → Bool) (expected : Place candidates → Option Cost)
    (place : Place candidates) : WithBot Cost :=
  if ∃ other, free other = false ∧ expected other = none then ⊥
  else if free place then ⊥
  else (expected place).elim ⊥ (↑·)

omit [LinearOrder Cost] in
theorem price_of_priced {free : Place candidates → Bool} {expected : Place candidates → Option Cost}
    (warm : ¬ ∃ other, free other = false ∧ expected other = none) {place : Place candidates}
    (priced : free place = false) {cost : Cost} (known : expected place = some cost) :
    price free expected place = (cost : WithBot Cost) := by
  unfold price
  rw [if_neg warm, priced, known]
  rfl

/-- The priced rungs in the order of what is read for each. -/
theorem orderPriced_places {places : List (Place candidates)} (nodup : places.Nodup)
    (sorted : places.Pairwise (· < ·)) :
    ∃ (order : List (Place candidates)) (expected : Place candidates → Option Cost),
      order.Perm places ∧
      orderPricedByExpectedCost estimates (rungsAt candidates places) = rungsAt candidates order ∧
      (∀ place, ∃ read, expected place =
        expectedCost estimates read (candidates.get place).definition) ∧
      ((∃ place ∈ places, expected place = none) → order = places) ∧
      ((∀ place ∈ places, expected place ≠ none) →
        order.Pairwise (Before fun place => (expected place).getD estimates.infinity)) := by
  let expected place :=
    expectedCost estimates (places.idxOf place) (candidates.get place).definition
  have cold : (tagged (expectedCost estimates) (rungsAt candidates places)).any (·.1.isNone) =
      places.any fun place => (expected place).isNone := by
    rw [tagged_rungsAt _ nodup, any_map]
    rfl
  by_cases any : places.any (fun place => (expected place).isNone) = true
  · refine ⟨places, expected, .refl _, ?_, fun place => ⟨_, rfl⟩, fun _ => rfl, ?_⟩
    · unfold orderPricedByExpectedCost
      dsimp only
      rw [cold, if_pos any]
    · intro warm
      obtain ⟨place, mem, none⟩ := any_eq_true.mp any
      exact absurd (Option.isNone_iff_eq_none.mp none) (warm place mem)
  · refine ⟨places.mergeSort fun left right =>
        (expected left).getD estimates.infinity ≤ (expected right).getD estimates.infinity,
      expected, mergeSort_perm _ _, ?_, fun place => ⟨_, rfl⟩, ?_, ?_⟩
    · unfold orderPricedByExpectedCost
      dsimp only
      rw [cold, if_neg any, tagged_rungsAt _ nodup, map_map]
      unfold rungsAt
      rw [← map_mergeSort (r := fun left right =>
        (expected left).getD estimates.infinity ≤ (expected right).getD estimates.infinity)
        (fun _ _ _ _ => rfl), map_map]
      rfl
    · rintro ⟨place, mem, none⟩
      refine absurd (any_eq_true.mpr ⟨place, mem, ?_⟩) any
      exact Option.isNone_iff_eq_none.mpr none
    · exact fun _ => pairwise_mergeSort_key _ sorted

/-- The free rungs, then the priced ones. -/
theorem orderByExpectedCost_places :
    ∃ (order : List (Place candidates)) (expected : Place candidates → Option Cost),
      order.Perm (List.finRange candidates.length) ∧
      orderByExpectedCost estimates candidates = rungsAt candidates order ∧
      (∀ place, ∃ read, expected place =
        expectedCost estimates read (candidates.get place).definition) ∧
      order.Pairwise (Before fun place => toLex
        (!estimates.isFree (candidates.get place).definition,
          price (fun place => estimates.isFree (candidates.get place).definition) expected
            place)) := by
  let free (place : Place candidates) := estimates.isFree (candidates.get place).definition
  let all := List.finRange candidates.length
  have ascending : all.Pairwise (· < ·) := pairwise_lt_finRange _
  have nodup : (all.filter (!free ·)).Nodup := (nodup_finRange _).filter _
  obtain ⟨order, expected, perm, same, reads, cold, warm⟩ :=
    orderPriced_places estimates nodup (ascending.filter _)
  refine ⟨all.filter free ++ order, expected, ?_, ?_, reads, ?_⟩
  · exact (perm.append_left _).trans (filter_append_perm free all)
  · have split := filter_rungsAt (fun rung => estimates.isFree rung.definition) all
    have rest := filter_rungsAt (fun rung => !estimates.isFree rung.definition) all
    rw [rungsAt_all] at split rest
    unfold orderByExpectedCost
    rw [split, rest, same]
    exact (map_append ..).symm
  · have priced : ∀ place ∈ order, free place = false := by
      intro place mem
      simpa using (mem_filter.mp (perm.mem_iff.mp mem)).2
    have given : ∀ place ∈ all.filter free, free place = true :=
      fun place mem => (mem_filter.mp mem).2
    refine pairwise_append.mpr ⟨?_, ?_, ?_⟩
    · refine (ascending.filter free).imp_of_mem ?_
      intro i j hi hj lt
      refine before_iff.mpr (.inr ⟨?_, lt⟩)
      simp only [price, given i hi, given j hj, free, if_true, ite_self]
    · by_cases none : ∃ place, free place = false ∧ expected place = none
      · -- Without an estimate for some rung the priced rungs stay in table order.
        have stays : order = all.filter (!free ·) := by
          obtain ⟨place, is_priced, none⟩ := none
          refine cold ⟨place, mem_filter.mpr ⟨mem_finRange place, ?_⟩, none⟩
          simpa using is_priced
        rw [stays] at priced ⊢
        refine (ascending.filter _).imp_of_mem ?_
        intro i j hi hj lt
        refine before_iff.mpr (.inr ⟨?_, lt⟩)
        simp only [price, if_pos none, priced i hi, priced j hj, free]
      · have known : ∀ place ∈ order, ∃ cost, expected place = some cost := by
          intro place mem
          exact Option.ne_none_iff_exists'.mp fun unknown =>
            none ⟨place, priced place mem, unknown⟩
        have sorted := warm fun place mem unknown => by
          obtain ⟨cost, is_cost⟩ := known place (perm.mem_iff.mpr mem)
          rw [unknown] at is_cost
          cases is_cost
        refine sorted.imp_of_mem ?_
        intro i j hi hj before
        obtain ⟨left, is_left⟩ := known i hi
        obtain ⟨right, is_right⟩ := known j hj
        rw [before_iff, is_left, is_right, Option.getD_some, Option.getD_some] at before
        rw [before_cons_iff, before_iff]
        refine .inr ⟨congrArg (!·) ((priced i hi).trans (priced j hj).symm), ?_⟩
        rw [price_of_priced none (priced i hi) is_left, price_of_priced none (priced j hj) is_right]
        simpa using before
    · intro i hi j hj
      refine before_cons_iff.mpr (.inl ?_)
      have first := given i hi
      have last := priced j hj
      simp only [free] at first last
      rw [first, last]
      decide

end Cost

/-! ## Twins in a built route -/

/-- Every house twin stands directly behind the customer's rung of its definition. -/
def Paired (rungs : List ProviderCandidate) : Prop :=
  ∀ place twin, rungs[place]? = some twin → twin.byokFallbackFor.isSome = true →
    ∃ before own, before + 1 = place ∧ rungs[before]? = some own ∧
      own.definition = twin.definition ∧ own.byok = true

theorem Paired.append {first second : List ProviderCandidate} (h : Paired first)
    (h' : Paired second) : Paired (first ++ second) := by
  intro place twin at_place is_twin
  by_cases early : place < first.length
  · rw [getElem?_append_left early] at at_place
    obtain ⟨before, own, succ, at_before, rest⟩ := h place twin at_place is_twin
    refine ⟨before, own, succ, ?_, rest⟩
    rw [getElem?_append_left (by omega)]
    exact at_before
  · rw [getElem?_append_right (by omega)] at at_place
    obtain ⟨before, own, succ, at_before, rest⟩ := h' _ twin at_place is_twin
    refine ⟨first.length + before, own, by omega, ?_, rest⟩
    rw [getElem?_append_right (by omega), Nat.add_sub_cancel_left]
    exact at_before

theorem paired_rungsOf (inventory : ProviderInventory) (maxOutputTokens : Nat)
    (byok : ByokCredentials) (readEnv : String → Option String) (definition : TierCandidate) :
    Paired (rungsOf inventory maxOutputTokens byok readEnv definition) := by
  intro place twin at_place is_twin
  unfold rungsOf at at_place ⊢
  split at at_place
  · simp at at_place
  · next metadata _ =>
      split at at_place
      · simp at at_place
      · next provider client =>
          cases place with
          | zero =>
              cases at_place
              cases is_twin
          | succ place =>
              rw [getElem?_cons_succ, getElem?_map] at at_place
              cases house : twinClientOf maxOutputTokens byok readEnv metadata definition with
              | none =>
                  rw [house] at at_place
                  cases at_place
              | some client =>
                  rw [house] at at_place
                  cases place with
                  | zero =>
                      cases at_place
                      -- There is a twin only of a rung on the customer's credential.
                      have customer : (byokCredentialFor metadata byok).isSome = true := by
                        unfold twinClientOf at house
                        split at house
                        · next opted => exact opted.1
                        · cases house
                      exact ⟨0, _, rfl, rfl, rfl, customer⟩
                  | succ place => cases at_place

theorem paired_buildWithByok {inventory : ProviderInventory} {maxOutputTokens : Nat}
    {byok : ByokCredentials} {readEnv : String → Option String} {definitions : List TierCandidate}
    {route : ProviderRoute}
    (h : buildWithByok inventory maxOutputTokens byok readEnv definitions = .ok route) :
    Paired route.candidates := by
  rw [(buildWithByok_ok h).2]
  clear h
  induction definitions with
  | nil =>
      intro place twin at_place
      cases at_place
  | cons definition rest ih =>
      exact (paired_rungsOf inventory maxOutputTokens byok readEnv definition).append ih

/-! ## The order -/

/-- What an order of the places comes to: the rungs of a table, each once, by a key and then by
    place, with neighbours of one key still neighbours. -/
structure Orders {κ : Type} [LinearOrder κ] (candidates result : List ProviderCandidate)
    (key : Place candidates → κ) (order : List (Place candidates)) : Prop where
  all : order.Perm (List.finRange candidates.length)
  result : result = rungsAt candidates order
  sorted : order.Pairwise (Before key)

theorem Orders.perm {κ : Type} [LinearOrder κ] {result : List ProviderCandidate}
    {key : Place candidates → κ} {order : List (Place candidates)}
    (h : Orders candidates result key order) : result.Perm candidates := by
  have moved := h.all.map candidates.get
  rw [h.result]
  refine moved.trans (.of_eq ?_)
  exact rungsAt_all

theorem Orders.neighbours {κ : Type} [LinearOrder κ] {result : List ProviderCandidate}
    {key : Place candidates → κ} {order : List (Place candidates)}
    (h : Orders candidates result key order) {i j : Place candidates} (next : i.val + 1 = j.val)
    (same : key i = key j) : ∃ before after, order = before ++ i :: j :: after := by
  have mem : ∀ place, place ∈ order := fun place =>
    h.all.mem_iff.mpr (mem_finRange place)
  refine neighbours_of_pairwise h.sorted (mem i) (mem j) ⟨?_, ?_⟩ same
  · exact Fin.lt_def.mpr (by omega)
  · intro k lt lt'
    rw [Fin.lt_def] at lt lt'
    omega

section Claim

variable {Tokens Cost : Type} [LinearOrder Cost] (estimates : CostContext Tokens Cost)
  (health : HealthReads) (metadata : TierCandidate → ModelMetadata) (needs : RequestNeeds)

/-- The candidate can serve what the request needs. -/
def able (place : Place candidates) : Bool :=
  (metadata (candidates.get place).definition).canServe needs

/-- The candidate costs nothing. -/
def free (place : Place candidates) : Bool := estimates.isFree (candidates.get place).definition

/-- The order of cost mode. -/
theorem orderCandidates_cost :
    ∃ (order : List (Place candidates)) (demoted : Place candidates → Bool)
      (expected : Place candidates → Option Cost),
      Orders candidates (orderCandidates estimates .cost health metadata needs candidates)
        (fun place => toLex (!able metadata needs place, toLex (demoted place,
          toLex (!free estimates place, price (free estimates) expected place)))) order ∧
      (∀ place, ∃ read, demoted place =
        health.shouldSkip read (candidates.get place).definition) ∧
      ∀ place, ∃ read, expected place =
        expectedCost estimates read (candidates.get place).definition := by
  obtain ⟨base, expected, perm, is_base, lookups, sorted⟩ :=
    @orderByExpectedCost_places candidates Tokens Cost _ estimates
  have nodup : base.Nodup := perm.nodup_iff.mpr (nodup_finRange _)
  obtain ⟨order, demoted, perm', is_order, verdicts, sorted'⟩ :=
    partitionByHealth_places health nodup sorted
  refine ⟨order.filter (able metadata needs) ++ order.filter (!able metadata needs ·), demoted,
    expected, ⟨?_, ?_, pairwise_partition _ sorted'⟩, verdicts, lookups⟩
  · exact (filter_append_perm _ order).trans (perm'.trans perm)
  · unfold orderCandidates partitionFirst
    dsimp only
    rw [is_base, is_order, filter_rungsAt, filter_rungsAt]
    exact (map_append ..).symm

/-- The order of the two other modes. -/
theorem orderCandidates_identity {priority : Priority} (other : priority ≠ .cost) :
    ∃ (order : List (Place candidates)) (demoted : Place candidates → Bool),
      Orders candidates (orderCandidates estimates priority health metadata needs candidates)
        demoted order ∧
      ∀ place, ∃ read, demoted place =
        health.shouldSkip read (candidates.get place).definition := by
  let all := List.finRange candidates.length
  have ascending : all.Pairwise (Before fun _ => ()) :=
    (pairwise_lt_finRange _).imp_of_mem fun _ _ lt => before_iff.mpr (.inr ⟨rfl, lt⟩)
  obtain ⟨order, demoted, perm, is_order, verdicts, sorted⟩ :=
    partitionByHealth_places health (nodup_finRange _) ascending
  refine ⟨order, demoted, ⟨perm, ?_, ?_⟩, verdicts⟩
  · rw [rungsAt_all] at is_order
    cases priority with
    | cost => exact absurd rfl other
    | balanced => exact is_order
    | success => exact is_order
  · refine sorted.imp fun before => ?_
    rw [before_cons_iff] at before
    rw [before_iff]
    refine before.imp_right (And.imp_right fun before => ?_)
    simpa [before_iff] using before

/-- Whatever is read of the registry and of the estimator: the ordering permutes the rungs; in cost
    mode they stand by whether they can serve, whether they were read as demoted, whether they are
    free and by their price, ties in table order; in the other modes by the verdict alone; and
    neighbours of one definition, as a house twin and its rung are in every built route, stay
    neighbours where what was read for the two agrees. -/
theorem orderCandidates_lexicographic (priority : Priority)
    (candidates : List ProviderCandidate) :
    (orderCandidates estimates priority health metadata needs candidates).Perm candidates ∧
    (∃ (order : List (Place candidates)) (demoted : Place candidates → Bool)
        (expected : Place candidates → Option Cost),
      (∀ place, ∃ read, demoted place =
        health.shouldSkip read (candidates.get place).definition) ∧
      (∀ place, ∃ read, expected place =
        expectedCost estimates read (candidates.get place).definition) ∧
      (priority = .cost →
        Orders candidates (orderCandidates estimates priority health metadata needs candidates)
          (fun place => toLex (!able metadata needs place, toLex (demoted place,
            toLex (!free estimates place, price (free estimates) expected place)))) order) ∧
      (priority ≠ .cost →
        Orders candidates (orderCandidates estimates priority health metadata needs candidates)
          demoted order) ∧
      ∀ i j : Place candidates, i.val + 1 = j.val →
        (candidates.get i).definition = (candidates.get j).definition →
        demoted i = demoted j → expected i = expected j →
          ∃ before after, order = before ++ i :: j :: after) ∧
    ∀ inventory maxOutputTokens byok readEnv definitions route,
      buildWithByok inventory maxOutputTokens byok readEnv definitions = .ok route →
        Paired route.candidates := by
  have built : ∀ inventory maxOutputTokens byok readEnv definitions route,
      buildWithByok inventory maxOutputTokens byok readEnv definitions = .ok route →
        Paired route.candidates := by
    intro _ _ _ _ _ _ h
    exact paired_buildWithByok h
  by_cases cost : priority = .cost
  · subst cost
    obtain ⟨order, demoted, expected, orders, verdicts, lookups⟩ :=
      @orderCandidates_cost candidates Tokens Cost _ estimates health metadata needs
    refine ⟨orders.perm, ⟨order, demoted, expected, verdicts, lookups, fun _ => orders,
      fun other => absurd rfl other, ?_⟩, built⟩
    intro i j next same verdict estimate
    refine orders.neighbours next ?_
    have serves : able metadata needs i = able metadata needs j := by
      unfold able
      rw [same]
    have costless : free estimates i = free estimates j := by
      unfold free
      rw [same]
    have priced : price (free estimates) expected i = price (free estimates) expected j := by
      simp only [price, costless, estimate]
    rw [serves, verdict, costless, priced]
  · obtain ⟨order, demoted, orders, verdicts⟩ :=
      @orderCandidates_identity candidates Tokens Cost _ estimates health metadata needs _ cost
    refine ⟨orders.perm, ⟨order, demoted,
      fun place => expectedCost estimates 0 (candidates.get place).definition, verdicts,
      fun place => ⟨0, rfl⟩, fun is_cost => absurd is_cost cost, fun _ => orders, ?_⟩, built⟩
    intro i j next _ verdict _
    exact orders.neighbours next verdict

end Claim

/-! ## Reads that do not change -/

section Constant

variable (context : OrderingContext) (health : ProviderHealth) (now : Instant)

theorem tagged_constant {β : Type} (read : TierCandidate → β) (rungs : List ProviderCandidate) :
    tagged (fun _ definition => read definition) rungs =
      rungs.map fun rung => (read rung.definition, rung) := by
  unfold tagged
  refine ext_getElem (by simp) ?_
  intro index before after
  simp

/-- An estimator in which every rung's cost is settled by its definition. -/
def constantCosts {Tokens : Type} (estimates : CostContext Tokens Decimal) : Prop :=
  estimates.isFree = context.isFree ∧
    ∀ read, expectedCost estimates read = context.expected

/-- Where nothing changes between the reads, this is the ordering of the request path. -/
theorem orderCandidates_constant {Tokens : Type} (estimates : CostContext Tokens Decimal)
    (settled : constantCosts context estimates) (metadata : TierCandidate → ModelMetadata)
    (needs : RequestNeeds)
    (serves : ∀ definition, context.canServe definition = (metadata definition).canServe needs)
    (priority : Priority) (rungs : List ProviderCandidate) :
    orderCandidates estimates priority ⟨fun _ => health, fun _ => now⟩ metadata needs rungs =
      ZeroRouter.orderCandidates priority context health now rungs := by
  obtain ⟨free, costs⟩ := settled
  have by_health : ∀ rungs : List ProviderCandidate,
      partitionByHealth ⟨fun _ => health, fun _ => now⟩ rungs =
        partitionFirst (fun rung => !health.shouldSkip now rung.definition) rungs := by
    intro rungs
    unfold partitionByHealth partitionFirst
    have tags := tagged_constant (fun definition => health.shouldSkip now definition) rungs
    have same : tagged (HealthReads.shouldSkip ⟨fun _ => health, fun _ => now⟩) rungs =
        rungs.map fun rung => (health.shouldSkip now rung.definition, rung) := tags
    dsimp only
    rw [same, List.filter_map, List.filter_map, List.map_map, List.map_map]
    simp [Function.comp_def]
  have by_cost : ∀ rungs : List ProviderCandidate,
      orderPricedByExpectedCost estimates rungs =
        ZeroRouter.orderPricedByExpectedCost context rungs := by
    intro rungs
    have same : tagged (expectedCost estimates) rungs =
        rungs.map fun rung => (context.expected rung.definition, rung) := by
      rw [← tagged_constant]
      congr 1
      exact funext costs
    unfold orderPricedByExpectedCost ZeroRouter.orderPricedByExpectedCost
    dsimp only
    have unread : (rungs.map fun rung => (context.expected rung.definition, rung)).any
        (·.1.isNone) = rungs.any fun rung => (context.expected rung.definition).isNone := by
      rw [List.any_map]
      rfl
    rw [same, unread]
    by_cases cold : rungs.any (fun rung => (context.expected rung.definition).isNone) = true
    · rw [if_pos cold, if_pos cold]
    · rw [if_neg cold, if_neg cold, List.map_map]
      have known : ∀ rung ∈ rungs, ∃ cost, context.expected rung.definition = some cost := by
        intro rung mem
        refine Option.ne_none_iff_exists'.mp fun unknown => cold ?_
        exact List.any_eq_true.mpr ⟨rung, mem, Option.isNone_iff_eq_none.mpr unknown⟩
      rw [← List.map_mergeSort (r := fun left right : ProviderCandidate =>
        ((context.expected left.definition).getD 0 : Decimal) ≤
          (context.expected right.definition).getD 0), List.map_map]
      · exact List.map_id _
      · intro left mem right mem'
        obtain ⟨cost, is_cost⟩ := known left mem
        obtain ⟨cost', is_cost'⟩ := known right mem'
        simp [is_cost, is_cost']
  unfold orderCandidates ZeroRouter.orderCandidates
  cases priority with
  | cost =>
      unfold orderByExpectedCost ZeroRouter.orderByExpectedCost
      simp only [by_health, by_cost, free, serves]
  | balanced => exact by_health rungs
  | success => exact by_health rungs

/-- A segment with a median of a hundred tokens, priced at the output rate. -/
def warmEstimates : CostContext Nat Decimal where
  signatureCell := some 100
  lookup _ _ := none
  expectedCostBasis rates tokens := rates.outputPerMtok.getD 0 * tokens
  infinity := 0
  isFree _ := false

def warmContext : OrderingContext where
  expected := expectedCost warmEstimates 0
  isFree _ := false
  canServe _ := ModelMetadata.unknown.canServe ⟨1, false, []⟩

theorem orderCandidates_constant_warm :
    warmContext.expected DemotedTwin.candidate ≠ none ∧
      orderCandidates warmEstimates .cost ⟨fun _ => .empty, fun _ => 0⟩ (fun _ => .unknown)
          ⟨1, false, []⟩ DemotedTwin.route =
        ZeroRouter.orderCandidates .cost warmContext .empty 0 DemotedTwin.route := by
  have settled : constantCosts warmContext warmEstimates := ⟨rfl, fun _ => rfl⟩
  exact ⟨by decide +kernel, orderCandidates_constant warmContext .empty 0 warmEstimates settled _ _
    (fun _ => rfl) .cost _⟩

end Constant

/-! ## A cooldown that lapses between two reads -/

namespace Lapse

/-- Nothing has been learned yet. -/
def estimates : CostContext Nat Nat where
  signatureCell := none
  lookup _ _ := none
  expectedCostBasis _ tokens := tokens
  infinity := 0
  isFree _ := false

/-- A registry the rung's rate limit was recorded into, read just before the cooldown ends and just
    after. -/
def health : HealthReads where
  registry _ :=
    ProviderHealth.empty.observe 0
      (buildAttempt 1 DemotedTwin.candidate "rate_limited" false ⟨0, 0⟩ ⟨0, 0⟩ .unknown false)
  clock read := if read = 0 then rateLimitCooldown - 1 else rateLimitCooldown

end Lapse

/-- The house twin ends up in front of the customer's rung. -/
theorem lapsing_cooldown_parts_twins :
    (∃ own twin, DemotedTwin.route = [own, twin] ∧ own.byok = true ∧
      twin.byokFallbackFor = some own.definition.provider ∧ own.definition = twin.definition) ∧
    orderCandidates Lapse.estimates .cost Lapse.health (fun _ => .unknown) ⟨1, false, []⟩
      DemotedTwin.route = DemotedTwin.route.reverse := by
  refine ⟨⟨_, _, rfl, rfl, rfl, rfl⟩, ?_⟩
  decide +kernel

end ZeroRouter.Selection
