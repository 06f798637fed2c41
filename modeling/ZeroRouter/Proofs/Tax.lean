import ZeroRouter.Tax
import ZeroRouter.Proofs.Prepaid

/-!
# Redemption tax and what is reserved

A collection takes the tax as far as the raw balance goes.  It leaves what admitted
requests hold exactly when the tax fits in what no reservation holds.
-/

namespace ZeroRouter

open Relational

/-- What a collection does to the database: nothing, or one debit of the tax as far as
    the balance goes. -/
theorem Db.collectPeriod_ok {db db' : Db} {periods periods' : Table redemptionTaxPeriodsTable}
    {now : Timestamp} {periodId : Uuid} {taken : Option (Decimal × Decimal)}
    (h : db.collectPeriod periods now periodId = .ok (taken, db', periods')) :
    db' = db ∨ ∃ period ∈ periods, period.id = periodId ∧ period.debitedAt = none ∧
      ∃ taxUsd ∈ period.taxUsd, 0 < taxUsd ∧ ∃ user ∈ db.users, user.id = period.userId ∧
        db.moveBalance period.userId false .rowNotFound
          (-taxCollectable taxUsd user.creditBalanceUsd)
          (taxEntry period.userId (taxCollectable taxUsd user.creditBalanceUsd) periodId) =
          .ok db' := by
  unfold Db.collectPeriod at h
  cases hfind : periods.find fun period => period.id = periodId ∧ period.debitedAt = none with
  | none =>
      rw [hfind] at h
      cases h
      exact .inl rfl
  | some period =>
      rw [hfind] at h
      obtain ⟨hperiod, hid, hopen⟩ := Table.find_some hfind
      dsimp only at h
      cases htax : period.taxUsd with
      | none =>
          rw [htax] at h
          cases h
          exact .inl rfl
      | some taxUsd =>
          rw [htax] at h
          dsimp only at h
          obtain ⟨⟨collected, debited⟩, hcollect, h⟩ := bind_eq_ok.mp h
          obtain ⟨table, -, h⟩ := bind_eq_ok.mp h
          cases h
          unfold Db.collectTax at hcollect
          by_cases hdue : 0 < taxUsd
          · rw [if_pos hdue] at hcollect
            obtain ⟨balance, hbalance, hcollect⟩ := bind_eq_ok.mp hcollect
            dsimp only at hcollect
            by_cases htakes : 0 < taxCollectable taxUsd balance
            · rw [if_pos htakes] at hcollect
              obtain ⟨moved, hmoved, hcollect⟩ := bind_eq_ok.mp hcollect
              cases hcollect
              unfold Db.balance at hbalance
              cases huser : db.users.find fun user => user.id = period.userId with
              | none =>
                  rw [huser] at hbalance
                  cases hbalance
              | some user =>
                  rw [huser] at hbalance
                  cases hbalance
                  obtain ⟨hmem, howner⟩ := Table.find_some huser
                  exact .inr ⟨period, hperiod, hid, hopen, taxUsd, htax, hdue, user, hmem, howner,
                    hmoved⟩
            · rw [if_neg htakes] at hcollect
              cases hcollect
              exact .inl rfl
          · rw [if_neg hdue] at hcollect
            cases hcollect
            exact .inl rfl

namespace Tax

/-- The movement of a collection, as another writer's. -/
def taxPosting (userId : Uuid) (collect : Decimal) (periodId : Uuid) : Posting where
  userId := userId
  creditReversal := false
  entryType := .tax
  amountUsd := -collect
  stripeSessionId := none
  stripePaymentIntentId := none
  note := some s!"redemption tax period {periodId}"

/-- The user's metering steps are prepaid ones, and a period of the user's is collected
    only if its tax fits in what no reservation holds. -/
def LeavesReserved (userId : Uuid) (w : World) : Action → Prop
  | .metering action => Prepaid userId w.metering action
  | .collectPeriod _ periodId _ =>
      ∀ period ∈ w.periods, period.id = periodId → period.userId = userId →
        ∀ taxUsd ∈ period.taxUsd, 0 < taxUsd → ∀ user ∈ w.metering.db.users, user.id = userId →
          taxUsd ≤ user.creditBalanceUsd -
            w.metering.db.userActiveReservedCost w.metering.clock userId
  | .openPeriod .. | .pricePeriod .. => True

instance (userId : Uuid) (w : World) (a : Action) : Decidable (LeavesReserved userId w a) := by
  cases a with
  | metering action => exact inferInstanceAs (Decidable (Prepaid userId w.metering action))
  | collectPeriod now periodId fate =>
      exact inferInstanceAs (Decidable (∀ period ∈ w.periods.rows, period.id = periodId →
        period.userId = userId → ∀ taxUsd ∈ period.taxUsd, 0 < taxUsd →
          ∀ user ∈ w.metering.db.users.rows, user.id = userId → _))
  | openPeriod _ _ => exact inferInstanceAs (Decidable True)
  | pricePeriod _ _ => exact inferInstanceAs (Decidable True)

section Step

variable {w w' : World} {a : Action} {userId : Uuid}

/-- What one step keeps: the metering system's own invariant, and the cover. -/
def Kept (userId : Uuid) (w : World) : Prop := Inv w.metering ∧ Covered userId w.metering

theorem Kept.collectPeriod {now : Timestamp} {periodId : Uuid} {fate : Fate}
    (h : Kept userId w) (leaves : LeavesReserved userId w (.collectPeriod now periodId fate)) :
    Kept userId (w.runCollectPeriod now periodId fate) := by
  unfold World.runCollectPeriod
  by_cases hcommit : fate.committed = true
  · rw [if_pos hcommit]
    cases hcollect : w.metering.db.collectPeriod w.periods now periodId with
    | error err => exact h
    | ok result =>
        obtain ⟨taken, db, periods⟩ := result
        rcases Db.collectPeriod_ok hcollect with
          hsame | ⟨period, hperiod, hid, hopen, taxUsd, htax, hdue, user, huser, howner, hmoved⟩
        · subst hsame
          exact h
        · have change : Change w.metering
              (.post (taxPosting period.userId (taxCollectable taxUsd user.creditBalanceUsd)
                periodId)) { w.metering with db } := .posted _ rfl db hmoved
          refine ⟨h.1.step change, @Covered.posted _ _ h.1 h.2 (taxPosting period.userId
            (taxCollectable taxUsd user.creditBalanceUsd) periodId) db hmoved ?_⟩
          intro hmine holder hholder hidentity
          have hsame : holder = user :=
            Table.eq_of_clash hholder huser (hidentity.trans (hmine.symm.trans howner.symm))
          subst hsame
          have fits := leaves period hperiod hid hmine taxUsd htax hdue holder hholder hidentity
          have collects : taxCollectable taxUsd holder.creditBalanceUsd ≤ taxUsd := min_le_left _ _
          change _ ≤ holder.creditBalanceUsd + -_
          linarith
  · rw [if_neg hcommit]
    exact h

theorem Kept.step (h : Kept userId w) (leaves : LeavesReserved userId w a)
    (next : step w a = some w') : Kept userId w' := by
  cases a with
  | metering action =>
      obtain ⟨metering, hstep, rfl⟩ := Option.map_eq_some_iff.mp next
      have change := step_change hstep
      exact ⟨h.1.step change, h.2.step h.1 leaves change⟩
  | openPeriod id owner =>
      simp only [Tax.step] at next
      split at next
      · cases next
      · cases next
        unfold World.runOpenPeriod
        dsimp only
        split <;> exact h
  | pricePeriod id taxCents =>
      simp only [Tax.step] at next
      split at next
      · cases next
      · cases next
        unfold World.runPricePeriod
        split <;> exact h
  | collectPeriod now periodId fate =>
      simp only [Tax.step] at next
      split at next
      · cases next
        exact h.collectPeriod leaves
      · cases next

end Step

/-- The user's metering steps are prepaid ones, and collections come as they may. -/
def PrepaidMetering (userId : Uuid) (w : World) : Action → Prop
  | .metering action => Prepaid userId w.metering action
  | .openPeriod .. | .pricePeriod .. | .collectPeriod .. => True

instance (userId : Uuid) (w : World) (a : Action) : Decidable (PrepaidMetering userId w a) := by
  unfold PrepaidMetering
  cases a <;> infer_instance

def opening : World where
  metering := .fresh onePrepaidUser oneKey 0
  mode := .collect
  periods := .empty

/-- A request in flight for 15 of a balance of 100 while a period is collected. -/
def collectedRun (taxCents : Nat) : List Action :=
  [.metering (.beginUsageSession 0 7 (houseRequest 15) .commit), .openPeriod 3 1,
    .pricePeriod 3 taxCents, .collectPeriod 0 3 .commit]

end Tax

end ZeroRouter
