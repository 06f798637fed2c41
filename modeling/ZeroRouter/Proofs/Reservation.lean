import ZeroRouter.Api.Reservation
import ZeroRouter.Proofs.Assembly
import ZeroRouter.Proofs.Skips

/-!
# A reservation and the route it fronts

The reservation is sized from one read of the customer's keys and the route built
from another.  It covers the route exactly when no catalog candidate that the first
read calls wholly covered puts a house rung on it.
-/

namespace ZeroRouter

section Fronts

variable (inventory : ProviderInventory) (maxOutputTokens : Nat) (byok : ByokCredentials)
  (readEnv : String → Option String)

/-- A definition puts a house rung on the route: its provider can be dispatched to and
    takes no customer key, or none was opened for it, or the key falls back to a house
    client that can be dialled. -/
def FrontsHouse (definition : TierCandidate) : Prop :=
  ∃ metadata, inventory.provider definition.provider = some metadata ∧
    (planeClient maxOutputTokens readEnv metadata definition
      (byokCredentialFor metadata byok)).isSome = true ∧
    (byokCredentialFor metadata byok = none ∨
      byok.fallsBack metadata.key = true ∧
        (planeClient maxOutputTokens readEnv metadata definition none).isSome = true)

variable {inventory maxOutputTokens byok readEnv}

theorem frontsHouse_iff (definition : TierCandidate) :
    (∃ candidate ∈ rungsOf inventory maxOutputTokens byok readEnv definition,
        candidate.byok = false) ↔
      FrontsHouse inventory maxOutputTokens byok readEnv definition := by
  unfold FrontsHouse rungsOf
  cases inventory.provider definition.provider with
  | none => simp
  | some metadata =>
      dsimp only
      cases hown : planeClient maxOutputTokens readEnv metadata definition
          (byokCredentialFor metadata byok) with
      | none => simp [hown]
      | some provider =>
          cases hcredential : byokCredentialFor metadata byok with
          | none =>
              rw [hcredential] at hown
              simp [hcredential, hown]
          | some credential =>
              rw [hcredential] at hown
              by_cases hfalls : byok.fallsBack metadata.key = true
              · simp [twinClientOf, hcredential, hown, hfalls, Option.isSome_iff_exists]
              · simp [twinClientOf, hcredential, hfalls]

/-- A route is the customer's throughout exactly when no definition fronts a house
    rung. -/
theorem buildWithByok_wholly {definitions : List TierCandidate} {route : ProviderRoute}
    (h : buildWithByok inventory maxOutputTokens byok readEnv definitions = .ok route) :
    (∀ candidate ∈ route.candidates, candidate.byok = true) ↔
      ∀ definition ∈ definitions,
        ¬ FrontsHouse inventory maxOutputTokens byok readEnv definition := by
  rw [(buildWithByok_ok h).2]
  constructor
  · intro hall definition hmem hfronts
    obtain ⟨candidate, hcandidate, hhouse⟩ := (frontsHouse_iff definition).mpr hfronts
    have := hall candidate (List.mem_flatMap_of_mem hmem hcandidate)
    exact Bool.false_ne_true (hhouse.symm.trans this)
  · intro hnone candidate hcandidate
    obtain ⟨definition, hmem, hrung⟩ := List.mem_flatMap.mp hcandidate
    by_contra hhouse
    exact hnone definition hmem
      ((frontsHouse_iff definition).mp ⟨candidate, hrung, Bool.eq_false_iff.mpr hhouse⟩)

end Fronts

/-- What the reservation owes the route: no candidate's own price for a usage within
    the bounds exceeds it, and one sized as wholly BYOK fronts customer rungs only. -/
structure ReservationCovers (request : ChatCompletionRequest) (resolved : ResolvedRoute)
    (outputBound : Nat) (size : ReservationSize) (posture : ByokReservation)
    (candidates : List ProviderCandidate) : Prop where
  costs : ∀ candidate ∈ candidates, ∀ call : SettleCall, call.sellRates = resolved.sellRates →
    call.features = RequestFeatures.fromRequest.onCandidate candidate →
    call.usage.promptTokens ≤ (request.reservationUsage outputBound).promptTokens →
    call.usage.completionTokens ≤ (request.reservationUsage outputBound).completionTokens →
    ∀ record, call.record = some record → record.costUsd ≤ size.costUsd
  wholly : posture.whollyByok = true → ∀ candidate ∈ candidates, candidate.byok = true

/-- What a settlement's record costs before the allowance. -/
theorem SettleCall.record_cost {call : SettleCall} {record : UsageRecord}
    (h : call.record = some record) :
    ∃ catalogCost,
      usageCost (call.sellRates.atPromptTokens call.usage.promptTokens) call.usage =
        some catalogCost ∧
      record.costUsd = catalogCost * call.features.byokRate := by
  unfold SettleCall.record at h
  obtain ⟨catalogCost, hcatalog, h⟩ := Option.bind_eq_some_iff.mp h
  obtain ⟨cost, hfee, h⟩ := Option.bind_eq_some_iff.mp h
  cases h
  exact ⟨catalogCost, hcatalog, applyFee_eq_some hfee⟩

/-- A usage within the bounds costs at most the reservation, at a rate no higher than
    the one it was sized at. -/
theorem cost_le_sized {request : ChatCompletionRequest} {resolved : ResolvedRoute}
    {outputBound : Nat} {byokRate : Decimal} {size : ReservationSize} {call : SettleCall}
    {record : UsageRecord}
    (hsize : sizedReservation request resolved outputBound byokRate = .ok size)
    (hrates : call.sellRates = resolved.sellRates)
    (hprompt : call.usage.promptTokens ≤ (request.reservationUsage outputBound).promptTokens)
    (houtput :
      call.usage.completionTokens ≤ (request.reservationUsage outputBound).completionTokens)
    (hrecord : call.record = some record) (hrate : call.features.byokRate ≤ byokRate)
    (hnonneg : 0 ≤ call.features.byokRate) : record.costUsd ≤ size.costUsd := by
  obtain ⟨reserved, hreserved, hsized⟩ := sizedReservation_eq_ok hsize
  obtain ⟨catalogCost, hcatalog, hcost⟩ := SettleCall.record_cost hrecord
  rw [hrates] at hcatalog
  have hle : catalogCost ≤ reserved :=
    usageCost_le_reservation rfl hprompt houtput hcatalog hreserved
  have hreserved₀ : 0 ≤ reserved := usageCost_nonneg hreserved
  rw [hcost, hsized]
  calc catalogCost * call.features.byokRate
      ≤ reserved * call.features.byokRate := mul_le_mul_of_nonneg_right hle hnonneg
    _ ≤ reserved * byokRate := mul_le_mul_of_nonneg_left hrate hreserved₀

theorem feeRate_le_houseRate : feeRate ≤ houseRate := by norm_num [feeRate, houseRate]

theorem RequestFeatures.byokRate_bounds (features : RequestFeatures) :
    0 ≤ features.byokRate ∧ features.byokRate ≤ houseRate := by
  unfold byokRate
  split
  · exact ⟨feeRate_pos.le, feeRate_le_houseRate⟩
  · exact ⟨by norm_num [houseRate], le_refl _⟩

/-- Whatever the two reads of the customer's keys returned, the reservation covers the
    route that was built exactly when no catalog candidate fronts a house rung, or the
    first read did not find the route wholly covered. -/
theorem reservation_covers_iff (keyring : Option (ByokProviderKey → Option String))
    (first second : Option (List ByokProviderKey)) (inventory : ProviderInventory)
    (maxOutputTokens : Nat) (readEnv : String → Option String)
    (request : ChatCompletionRequest) (resolved : ResolvedRoute) (outputBound fullBound : Nat)
    {size : ReservationSize} {posture : ByokReservation} {route : ProviderRoute}
    (hsize : sizedReservation request resolved outputBound
      (byokReservationRate resolved (byokCoveredProviders keyring first)) = .ok size)
    (hposture : byokReservationPosture request resolved fullBound
      (byokCoveredProviders keyring first)
      (byokReservationRate resolved (byokCoveredProviders keyring first)) = .ok posture)
    (hroute : buildWithByok inventory maxOutputTokens (byokCredentials keyring second) readEnv
      resolved.candidates = .ok route) :
    ReservationCovers request resolved outputBound size posture route.candidates ↔
      (WhollyCovered resolved (byokCoveredProviders keyring first) →
        ∀ definition ∈ resolved.candidates,
          ¬ FrontsHouse inventory maxOutputTokens (byokCredentials keyring second) readEnv
            definition) := by
  have hwhole := byokReservationPosture_whollyByok (buildWithByok_ok hroute).1 hposture
  have hroute' := buildWithByok_wholly hroute
  constructor
  · intro hcovers hcovered
    exact hroute'.mp (hcovers.wholly (hwhole.mpr hcovered))
  · intro hcondition
    refine ⟨?_, fun hwholly => hroute'.mpr (hcondition (hwhole.mp hwholly))⟩
    intro candidate hmem call hrates hfeatures hprompt houtput record hrecord
    obtain ⟨hnonneg, hhouse⟩ := call.features.byokRate_bounds
    refine cost_le_sized hsize hrates hprompt houtput hrecord ?_ hnonneg
    rcases byokReservationRate_cases resolved (byokCoveredProviders keyring first) with
      ⟨hcovered, hrate⟩ | ⟨-, hrate⟩
    · -- Sized at the fee rate: every rung of the route is the customer's.
      have hbyok := hroute'.mpr (hcondition hcovered) candidate hmem
      rw [hrate, hfeatures]
      simp [RequestFeatures.byokRate, RequestFeatures.onCandidate, hbyok]
    · rw [hrate]
      exact hhouse

namespace AttachedKey

/-- One customer key, not opted in to the fallback. -/
def rows : List ByokProviderKey := [⟨"anthropic", "customer", false⟩]

def keyring : Option (ByokProviderKey → Option String) := some fun row => some row.sealedCredential

def resolved : ResolvedRoute :=
  ⟨"claude", [DemotedTwin.candidate], DemotedTwin.candidate.rates⟩

def request : ChatCompletionRequest := ⟨[⟨"user", .text "hello", [], none, none, none⟩], []⟩

/-- A house answer that uses the whole of the bounds. -/
def served : SettleCall where
  session := DemotedTwin.request.session
  requestedModel := "claude"
  upstreamProvider := "anthropic"
  upstreamModel := "claude"
  candidate := some DemotedTwin.candidate
  usage := request.reservationUsage 64
  sellRates := resolved.sellRates
  features := ⟨false, false⟩
  attempts := []
  status := 200
  started := ⟨0, 0⟩
  now := ⟨0, 0⟩

def size : ReservationSize := ⟨137, 64, 1179 / 20000000⟩

def posture : ByokReservation := ⟨some (1179 / 1000000), true⟩

def customerRoute : ProviderRoute :=
  ⟨[⟨DemotedTwin.candidate, DemotedTwin.client "customer", true, none⟩], ["anthropic"]⟩

def houseRoute : ProviderRoute :=
  ⟨[⟨DemotedTwin.candidate, DemotedTwin.client "house", false, none⟩], []⟩

theorem sized :
    sizedReservation request resolved 64
        (byokReservationRate resolved (byokCoveredProviders keyring (some rows))) = .ok size ∧
      byokReservationPosture request resolved 64 (byokCoveredProviders keyring (some rows))
        (byokReservationRate resolved (byokCoveredProviders keyring (some rows))) = .ok posture := by
  decide +kernel

end AttachedKey

/-- Two reads that agree: the reservation at the fee rate fronts the customer's rung. -/
theorem reservation_covers_attachedKey :
    ReservationCovers AttachedKey.request AttachedKey.resolved 64 AttachedKey.size
      AttachedKey.posture AttachedKey.customerRoute.candidates := by
  refine (reservation_covers_iff AttachedKey.keyring (some AttachedKey.rows)
    (some AttachedKey.rows) DemotedTwin.inventory 64 DemotedTwin.environment AttachedKey.request
    AttachedKey.resolved 64 64 AttachedKey.sized.1 AttachedKey.sized.2
    (by decide +kernel)).mpr ?_
  intro _ definition hmem hfronts
  obtain rfl := List.mem_singleton.mp hmem
  obtain ⟨metadata, hentry, -, hhouse⟩ := hfronts
  cases hentry
  rcases hhouse with hnone | ⟨hfalls, -⟩
  · exact absurd hnone (by decide +kernel)
  · exact absurd hfalls (by decide +kernel)

/-- The second read fails after the first succeeded: a house answer within the bounds
    costs twenty times what was reserved. -/
theorem reservation_not_covers_failedRead :
    sizedReservation AttachedKey.request AttachedKey.resolved 64
        (byokReservationRate AttachedKey.resolved
          (byokCoveredProviders AttachedKey.keyring (some AttachedKey.rows))) =
        .ok AttachedKey.size ∧
      byokReservationPosture AttachedKey.request AttachedKey.resolved 64
        (byokCoveredProviders AttachedKey.keyring (some AttachedKey.rows))
        (byokReservationRate AttachedKey.resolved
          (byokCoveredProviders AttachedKey.keyring (some AttachedKey.rows))) =
        .ok AttachedKey.posture ∧
      buildWithByok DemotedTwin.inventory 64 (byokCredentials AttachedKey.keyring none)
        DemotedTwin.environment AttachedKey.resolved.candidates = .ok AttachedKey.houseRoute ∧
      (AttachedKey.served.record.map (·.costUsd)).any
        (fun cost => decide (cost = 20 * AttachedKey.size.costUsd)) = true ∧
      ¬ ReservationCovers AttachedKey.request AttachedKey.resolved 64 AttachedKey.size
        AttachedKey.posture AttachedKey.houseRoute.candidates := by
  refine ⟨AttachedKey.sized.1, AttachedKey.sized.2, by decide +kernel, by decide +kernel, ?_⟩
  intro hcovers
  have := hcovers.wholly rfl _ List.mem_cons_self
  exact Bool.false_ne_true this

end ZeroRouter
