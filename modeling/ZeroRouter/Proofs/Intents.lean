import ZeroRouter.Billing.Recharge
import ZeroRouter.Proofs.AutopayOperations

/-!
# What each step does to the intents

Every transaction of the billing system leaves `stripe_autopay_intents` alone, enters one
row, rewrites the rows of one id, or deletes a claim.
-/

namespace ZeroRouter.Billing

open Relational AutopayDb Table

variable {db db' : AutopayDb} {intents intents' : Table stripeAutopayIntentsTable}
  {recovered : Option (Uuid × Decimal × Decimal)} {row : StripeAutopayIntent}

section Intents

variable {w w' : World} {now : Timestamp} {userId : Uuid} {paymentIntentId idempotencyKey : String}
  {amountUsd chargeAmountUsd : Decimal}

/-- A row as it is renamed. -/
def renamed (now : Timestamp) (paymentIntentId : String) (row : StripeAutopayIntent) :
    StripeAutopayIntent :=
  { row with paymentIntentId, updatedAt := now }

/-- A row as its tax is frozen. -/
def frozen (now : Timestamp) (taxUsd : Decimal) (calculationId : Option String)
    (row : StripeAutopayIntent) : StripeAutopayIntent :=
  { row with
    taxAmountUsd := some (row.taxAmountUsd.getD taxUsd)
    taxCalculationId := if row.taxAmountUsd = none then calculationId else row.taxCalculationId
    updatedAt := now }

/-- One row was entered, or none. -/
def Entered (intents : Table stripeAutopayIntentsTable) (row : StripeAutopayIntent)
    (intents' : Table stripeAutopayIntentsTable) : Prop :=
  intents' = intents ∨ intents.insert row = .ok intents'

/-- The rows that satisfy `p` were rewritten, or none. -/
def Rewritten (intents : Table stripeAutopayIntentsTable) (p : StripeAutopayIntent → Prop)
    [DecidablePred p] (f : StripeAutopayIntent → StripeAutopayIntent)
    (intents' : Table stripeAutopayIntentsTable) : Prop :=
  intents' = intents ∨ intents.updateWhere p f = .ok intents'

theorem Entered.back {new : StripeAutopayIntent} (h : Entered intents new intents')
    (mem : row ∈ intents') :
    row ∈ intents ∨ row = new := by
  rcases h with rfl | h
  · exact .inl mem
  · exact (mem_insert h).mp mem

theorem Entered.forth {new : StripeAutopayIntent} (h : Entered intents new intents')
    (mem : row ∈ intents) :
    row ∈ intents' := by
  rcases h with rfl | h
  · exact mem
  · exact (mem_insert h).mpr (.inl mem)

section Rewritten

variable {intents intents' : Table stripeAutopayIntentsTable} {p : StripeAutopayIntent → Prop}
  [DecidablePred p] {f : StripeAutopayIntent → StripeAutopayIntent} {row : StripeAutopayIntent}

theorem Rewritten.back (h : Rewritten intents p f intents') (mem : row ∈ intents') :
    row ∈ intents ∨ ∃ old ∈ intents, p old ∧ row = f old := by
  rcases h with rfl | h
  · exact .inl mem
  · obtain ⟨old, hold, same⟩ := (mem_updateWhere h).mp mem
    unfold rewrite at same
    split at same
    · next hp => exact .inr ⟨old, hold, hp, same.symm⟩
    · exact .inl (same ▸ hold)

theorem Rewritten.forth (h : Rewritten intents p f intents') (mem : row ∈ intents) :
    row ∈ intents' ∨ p row ∧ f row ∈ intents' := by
  rcases h with rfl | h
  · exact .inl mem
  · have moved := (mem_updateWhere h).mpr ⟨row, mem, rfl⟩
    unfold rewrite at moved
    split at moved
    · next hp => exact .inr ⟨hp, moved⟩
    · exact .inl moved

end Rewritten

/-! ## The statements -/

theorem insertUnlessConflict_entered {inserted : Bool}
    (h : db.insertUnlessConflict row = .ok (inserted, db')) :
    Entered db.stripeAutopayIntents row db'.stripeAutopayIntents := by
  rcases insertUnlessConflict_ok h with rfl | ⟨intents, hintents, rfl⟩
  · exact .inl rfl
  · exact .inr hintents

theorem intents_runClaim :
    Entered w.db.stripeAutopayIntents
      (newIntent now (localId idempotencyKey) userId amountUsd chargeAmountUsd)
      (w.runClaim now userId amountUsd chargeAmountUsd idempotencyKey).db.stripeAutopayIntents := by
  unfold World.runClaim World.runAutopay
  cases h : w.db.claimAutopayAttempt now userId amountUsd chargeAmountUsd idempotencyKey with
  | error => exact .inl rfl
  | ok answer =>
      obtain ⟨claimed, db⟩ := answer
      unfold claimAutopayAttempt at h
      split at h
      · exact insertUnlessConflict_entered h
      · cases h
        exact .inl rfl

theorem intents_recordAutopayCharge :
    Entered w.db.stripeAutopayIntents
      (newIntent now paymentIntentId userId amountUsd chargeAmountUsd)
      (w.runAutopay (w.db.recordAutopayCharge now paymentIntentId userId amountUsd
        chargeAmountUsd)).db.stripeAutopayIntents := by
  unfold World.runAutopay
  cases h : w.db.recordAutopayCharge now paymentIntentId userId amountUsd chargeAmountUsd with
  | error => exact .inl rfl
  | ok db =>
      unfold recordAutopayCharge at h
      simp only [bind_eq_ok] at h
      obtain ⟨⟨inserted, next⟩, hnext, h⟩ := h
      cases h
      exact insertUnlessConflict_entered hnext

theorem intents_runRename :
    Rewritten w.db.stripeAutopayIntents
      (fun row => row.paymentIntentId = localId idempotencyKey ∧
        ¬ ∃ other ∈ w.db.stripeAutopayIntents, other.paymentIntentId = paymentIntentId)
      (renamed now paymentIntentId)
      (w.runRename now idempotencyKey paymentIntentId).db.stripeAutopayIntents := by
  unfold World.runRename
  cases h : w.db.renameClaim now idempotencyKey paymentIntentId with
  | error => exact .inl rfl
  | ok answer =>
      obtain ⟨n, db⟩ := answer
      obtain ⟨intents, hintents, -, rfl⟩ := updateIntents_ok h
      cases n with
      | zero => exact .inr hintents
      | succ n => exact .inr hintents

theorem intents_freezeAutopayTax {taxUsd : Decimal} {calculationId : Option String} :
    Rewritten w.db.stripeAutopayIntents (isPending paymentIntentId)
      (frozen now taxUsd calculationId)
      (w.runAutopay ((w.db.freezeAutopayTax now paymentIntentId taxUsd calculationId).map
        Prod.snd)).db.stripeAutopayIntents := by
  unfold World.runAutopay
  cases h : w.db.freezeAutopayTax now paymentIntentId taxUsd calculationId with
  | error => exact .inl rfl
  | ok answer =>
      obtain ⟨n, db⟩ := answer
      obtain ⟨intents, hintents, -, rfl⟩ := updateIntents_ok h
      exact .inr hintents

theorem intents_runFail :
    Rewritten w.db.stripeAutopayIntents (isPending paymentIntentId) (finished now .failed)
      (w.runFail now paymentIntentId).db.stripeAutopayIntents := by
  unfold World.runFail
  cases h : w.db.failAutopayIntent now paymentIntentId with
  | error => exact .inl rfl
  | ok answer =>
      obtain ⟨moved, db⟩ := answer
      rcases failAutopayIntent_ok h with ⟨rfl, rfl⟩ | ⟨rfl, -, -, -, intents, -, hintents, -, rfl⟩
      · exact .inl rfl
      · dsimp only
        split <;> exact .inr hintents

/-! ## Settlement -/

/-- The row a settlement works on is there, or was entered. -/
def Recovers (intents : Table stripeAutopayIntentsTable) (now : Timestamp)
    (paymentIntentId : String) (recovered : Option (Uuid × Decimal × Decimal))
    (intents' : Table stripeAutopayIntentsTable) : Prop :=
  intents' = intents ∨ ∃ collected ∈ recovered,
    (∀ row ∈ intents, row.paymentIntentId ≠ paymentIntentId) ∧
      intents.insert (newIntent now paymentIntentId collected.1 collected.2.1 collected.2.2) =
        .ok intents'

/-- Why a settlement finishes a pending row as it does. -/
inductive Verdict (db : AutopayDb) (recovered : Option (Uuid × Decimal × Decimal))
    (row : StripeAutopayIntent) : AutopayStatus → Prop where
  | succeeded (armed : db.autopayStillArmed row.userId) : Verdict db recovered row .succeeded
  | withheld (disarmed : ¬ db.autopayStillArmed row.userId) : Verdict db recovered row .withheld
  | failed {collected : Uuid × Decimal × Decimal} (given : collected ∈ recovered)
      (disagrees : ¬ agreesWith row collected) : Verdict db recovered row .failed

/-- The pending row of an intent is finished, as the verdict on it says. -/
structure Finishes (db : AutopayDb) (intents : Table stripeAutopayIntentsTable) (now : Timestamp)
    (paymentIntentId : String) (recovered : Option (Uuid × Decimal × Decimal))
    (status : AutopayStatus) (intents' : Table stripeAutopayIntentsTable) : Prop where
  verdict : ∀ row ∈ intents, isPending paymentIntentId row → Verdict db recovered row status
  rows : ∀ row, row ∈ intents' ↔
    ∃ old ∈ intents, Table.rewrite (isPending paymentIntentId) (finished now status) old = row

/-- What settling did to the rows. -/
def SettledRows (db : AutopayDb) (now : Timestamp) (paymentIntentId : String)
    (recovered : Option (Uuid × Decimal × Decimal)) (intents' : Table stripeAutopayIntentsTable) :
    Prop :=
  ∃ intents, Recovers db.stripeAutopayIntents now paymentIntentId recovered intents ∧
    (intents' = intents ∨
      ∃ status, Finishes db intents now paymentIntentId recovered status intents')

/-- Two rows of one intent are one row. -/
theorem eq_of_intent {a b : StripeAutopayIntent} (ha : a ∈ intents) (hb : b ∈ intents)
    (same : a.paymentIntentId = b.paymentIntentId) : a = b :=
  eq_of_clash ha hb (.inl same)

theorem Settles.finishes {outcome : AutopayOutcome}
    (h : Settles db now paymentIntentId outcome db') :
    db'.stripeAutopayIntents = db.stripeAutopayIntents ∨
      ∃ status, Finishes db db.stripeAutopayIntents now paymentIntentId recovered status
        db'.stripeAutopayIntents := by
  cases h with
  | alreadySettled => exact .inl rfl
  | unknown => exact .inl rfl
  | @credited intent intents settings money mem pending moved credited =>
      refine .inr ⟨.succeeded, ?_, fun row => mem_updateWhere moved⟩
      intro row hrow hpending
      rw [eq_of_intent hrow mem (hpending.1.trans pending.1.symm)]
      exact .succeeded credited.armed
  | @withheld intent succeeded intents mem pending moved disarmed held =>
      refine .inr ⟨.withheld, ?_, ?_⟩
      · intro row hrow hpending
        rw [eq_of_intent hrow mem (hpending.1.trans pending.1.symm)]
        exact .withheld disarmed
      -- The one row of the intent is the pending one: it passes through `succeeded`.
      have twice : ∀ old ∈ db.stripeAutopayIntents,
          rewrite (fun row => row.paymentIntentId = paymentIntentId) (finished now .withheld)
              (rewrite (isPending paymentIntentId) (finished now .succeeded) old) =
            rewrite (isPending paymentIntentId) (finished now .withheld) old := by
        intro old hold
        by_cases here : old.paymentIntentId = paymentIntentId
        · rw [eq_of_intent hold mem (here.trans pending.1.symm)]
          simp only [rewrite, if_pos pending]
          rw [if_pos (show (finished now .succeeded intent).paymentIntentId = paymentIntentId
            from pending.1)]
          rfl
        · have other : ¬ isPending paymentIntentId old := fun h => here h.1
          simp only [rewrite, if_neg other, if_neg here]
      intro row
      rw [mem_updateWhere held]
      constructor
      · rintro ⟨middle, hmiddle, rfl⟩
        obtain ⟨old, hold, rfl⟩ := (mem_updateWhere moved).mp hmiddle
        exact ⟨old, hold, (twice old hold).symm⟩
      · rintro ⟨old, hold, rfl⟩
        exact ⟨_, (mem_updateWhere moved).mpr ⟨old, hold, rfl⟩, twice old hold⟩

theorem recoverIntent_recovers {collected : Uuid × Decimal × Decimal}
    (h : db.recoverIntent now paymentIntentId collected = .ok db') :
    Recovers db.stripeAutopayIntents now paymentIntentId (some collected)
        db'.stripeAutopayIntents ∧
      db'.toDb = db.toDb ∧ db'.autopaySettings = db.autopaySettings := by
  rcases recoverIntent_ok h with ⟨-, rfl⟩ | ⟨absent, intents, hintents, rfl⟩
  · exact ⟨.inl rfl, rfl, rfl⟩
  · exact ⟨.inr ⟨collected, rfl, absent, hintents⟩, rfl, rfl⟩

/-- Eligibility is read off the users alone. -/
theorem autopayStillArmed_congr (users : db'.toDb = db.toDb)
    (settings : db'.autopaySettings = db.autopaySettings) (userId : Uuid) :
    db'.autopayStillArmed userId ↔ db.autopayStillArmed userId := by
  simp only [autopayStillArmed, userWhere, users, settings]

theorem Finishes.congr {status : AutopayStatus}
    (h : Finishes db' intents now paymentIntentId recovered status intents')
    (users : db'.toDb = db.toDb) (settings : db'.autopaySettings = db.autopaySettings) :
    Finishes db intents now paymentIntentId recovered status intents' := by
  refine ⟨?_, h.rows⟩
  intro row hrow hpending
  cases h.verdict row hrow hpending with
  | succeeded armed => exact .succeeded ((autopayStillArmed_congr users settings _).mp armed)
  | withheld disarmed =>
      exact .withheld fun armed => disarmed ((autopayStillArmed_congr users settings _).mpr armed)
  | failed given disagrees => exact .failed given disagrees

theorem SettlesRecovered.settledRows {answer : Except SqlError AutopayOutcome}
    (h : SettlesRecovered db now paymentIntentId recovered answer db') :
    SettledRows db now paymentIntentId recovered db'.stripeAutopayIntents := by
  cases h with
  | stored settles => exact ⟨_, .inl rfl, settles.finishes⟩
  | agreed recovers mem id agrees settles =>
      obtain ⟨entered, users, settings⟩ := recoverIntent_recovers recovers
      refine ⟨_, entered, ?_⟩
      rcases settles.finishes with same | ⟨status, finishes⟩
      · exact .inl same
      · exact .inr ⟨status, finishes.congr users settings⟩
  | @disagreed collected recovered row intents error recovers mem id disagrees failed =>
      obtain ⟨entered, -, -⟩ := recoverIntent_recovers recovers
      refine ⟨_, entered, .inr ⟨.failed, ?_, fun row => mem_updateWhere failed⟩⟩
      intro other hother pending
      rw [eq_of_intent hother mem (pending.1.trans id.symm)]
      exact .failed rfl disagrees

theorem intents_runSettle :
    SettledRows w.db now paymentIntentId recovered
      (w.runSettle now paymentIntentId recovered).db.stripeAutopayIntents := by
  unfold World.runSettle
  cases h : w.db.settleAutopayIntent now paymentIntentId recovered with
  | error => exact ⟨_, .inl rfl, .inl rfl⟩
  | ok answer =>
      obtain ⟨answer, db⟩ := answer
      have settled := (settleAutopayIntent_ok h).settledRows
      cases answer with
      | error => exact settled
      | ok outcome =>
          cases outcome with
          | credited =>
              dsimp only
              split <;> exact settled
          | alreadySettled | unknown | withheld => exact settled

/-- There is room for a pending row of an intent. -/
def Free (intents : Table stripeAutopayIntentsTable) (paymentIntentId : String) (userId : Uuid) :
    Prop :=
  ∀ row ∈ intents, row.paymentIntentId ≠ paymentIntentId ∧
    ¬ (row.status = .pending ∧ row.userId = userId)

instance (intents : Table stripeAutopayIntentsTable) (paymentIntentId : String) (userId : Uuid) :
    Decidable (Free intents paymentIntentId userId) :=
  inferInstanceAs (Decidable (∀ _ ∈ intents, _))

theorem free_of_insert
    (h : intents.insert (newIntent now paymentIntentId userId amountUsd chargeAmountUsd) =
      .ok intents') : Free intents paymentIntentId userId := by
  intro row mem
  have apart := (insert_ok h).2.2 row mem
  refine ⟨fun same => apart (.inl same), ?_⟩
  rintro ⟨pending, user⟩
  exact apart (.inr ⟨pending, rfl, user⟩)

/-- A row a settlement left: it was there, it was entered, or it is finished. -/
theorem SettledRows.back (h : SettledRows db now paymentIntentId recovered intents')
    (mem : row ∈ intents') :
    ∃ old, (old ∈ db.stripeAutopayIntents ∨ ∃ collected ∈ recovered,
        Free db.stripeAutopayIntents paymentIntentId collected.1 ∧
          old = newIntent now paymentIntentId collected.1 collected.2.1 collected.2.2) ∧
      (row = old ∨ isPending paymentIntentId old ∧
        ∃ status, Verdict db recovered old status ∧ row = finished now status old) := by
  obtain ⟨intents, entered, finishes⟩ := h
  have origin : ∀ old ∈ intents, old ∈ db.stripeAutopayIntents ∨ ∃ collected ∈ recovered,
      Free db.stripeAutopayIntents paymentIntentId collected.1 ∧
        old = newIntent now paymentIntentId collected.1 collected.2.1 collected.2.2 := by
    intro old hold
    rcases entered with rfl | ⟨collected, given, -, inserted⟩
    · exact .inl hold
    · rcases (mem_insert inserted).mp hold with before | rfl
      · exact .inl before
      · exact .inr ⟨collected, given, free_of_insert inserted, rfl⟩
  rcases finishes with rfl | ⟨status, finishes⟩
  · exact ⟨row, origin row mem, .inl rfl⟩
  · obtain ⟨old, hold, same⟩ := (finishes.rows row).mp mem
    refine ⟨old, origin old hold, ?_⟩
    unfold rewrite at same
    split at same
    next pending =>
      exact .inr ⟨pending, status, finishes.verdict old hold pending, same.symm⟩
    next => exact .inl same.symm

/-! ## The other transactions -/

/-- The tables of autopay's intents and the keys drawn are as they were. -/
structure SameIntents (w w' : World) : Prop where
  intents : w'.db.stripeAutopayIntents = w.db.stripeAutopayIntents
  claimed : w'.claimed = w.claimed

theorem sameIntents_run {result : Except SqlError Db} : SameIntents w (w.run result) := by
  unfold World.run
  split <;> exact ⟨rfl, rfl⟩

theorem sameIntents_transact {α : Type} {n : Nat} {fate : Fate} {next : World → α → World}
    {result : Except SqlError (α × Db)}
    (next_same : ∀ w answer, SameIntents w (next w answer)) :
    SameIntents w (w.transact n fate next result) := by
  unfold World.transact
  split
  · exact ⟨rfl, rfl⟩
  next answer db =>
    cases fate with
    | commit =>
        obtain ⟨intents, claimed⟩ := next_same (w.run (.ok db)) answer
        exact ⟨intents, claimed⟩
    | commitUnseen | rollback => exact ⟨rfl, rfl⟩

theorem sameIntents_assess {n : Nat} {event : ReversalEvent} {credit : CreditLedger} :
    SameIntents w (w.assess n event credit) := by
  unfold World.assess
  split <;> exact ⟨rfl, rfl⟩

theorem sameIntents_runAutopay {result : Except SqlError AutopayDb}
    (same : ∀ db, result = .ok db → db.stripeAutopayIntents = w.db.stripeAutopayIntents) :
    SameIntents w (w.runAutopay result) := by
  cases result with
  | error => exact ⟨rfl, rfl⟩
  | ok db => exact ⟨same db rfl, rfl⟩

theorem sameIntents_updateSettings {f : AutopaySettings → AutopaySettings}
    (h : db.updateSettings userId f = .ok db') :
    db'.stripeAutopayIntents = db.stripeAutopayIntents := by
  obtain ⟨settings, -, rfl⟩ := updateSettings_ok h
  rfl

theorem sameIntents_aside {stripe : StripeObjects} {bounds : CheckoutBounds} {action : Action}
    (h : step stripe bounds w action = some w') (aside : action.isAside = true) :
    SameIntents w w' := by
  unfold step at h
  split at h
  · cases action with
    | creditPurchase | post | freezeAccount =>
        cases h
        exact sameIntents_run
    | unfreezeAccount userId =>
        cases h
        have same : SameIntents w (w.run (w.db.unfreezeAccount userId)) := sameIntents_run
        exact ⟨same.intents, same.claimed⟩
    | deliver event =>
        dsimp only [World.receive] at h
        split at h
        · split at h
          · cases h
            exact ⟨rfl, rfl⟩
          · cases h
            exact ⟨rfl, rfl⟩
          · split at h
            · cases h
              exact ⟨rfl, rfl⟩
            · cases h
        · cases h
    | resolve n now fate =>
        dsimp only at h
        split at h
        · cases h
          refine sameIntents_transact fun w found => ?_
          cases found with
          | none => exact ⟨rfl, rfl⟩
          | some credit =>
              dsimp only
              split
              · exact ⟨rfl, rfl⟩
              · exact sameIntents_assess
        · cases h
    | freeze n now fate =>
        dsimp only at h
        split at h
        · cases h
          exact sameIntents_transact fun w _ => sameIntents_assess
        · cases h
    | reverse n fate =>
        dsimp only at h
        split at h
        · cases h
          refine sameIntents_transact fun w outcome => ?_
          cases outcome <;> exact ⟨rfl, rfl⟩
        · cases h
    | stamp n now fate =>
        dsimp only at h
        split at h
        · cases h
          exact sameIntents_transact fun w _ => ⟨rfl, rfl⟩
        · cases h
    | crash n =>
        cases h
        exact ⟨rfl, rfl⟩
    | armAutopay userId thresholdUsd topupUsd hasCard =>
        cases h
        unfold World.runArm
        split
        next db harm =>
          rcases armAutopay_ok harm with ⟨moved, -⟩ | ⟨-, -, settings, -, rfl⟩
          · cases moved
          · exact ⟨rfl, rfl⟩
        · exact ⟨rfl, rfl⟩
    | disarmAutopay userId =>
        cases h
        exact sameIntents_runAutopay fun db hdb => sameIntents_updateSettings hdb
    | claimAutopayAttempt | renameClaim | dropClaim | freezeAutopayTax | settleAutopayIntent
      | failAutopayIntent | recordAutopayCharge => cases aside
  · cases h

end Intents

end ZeroRouter.Billing
