import ZeroRouter.Proofs.AutopayOperations

/-!
# Balances and the ledger

A balance moves by what the ledger records and by nothing else: the difference of the
two is the same after every step.
-/

namespace ZeroRouter.Billing

open Relational AutopayDb Table

/-- A balance, less the rows of its ledger. -/
def unexplained (db : Db) (userId : Uuid) : Option Decimal :=
  (db.users.find fun user => user.id = userId).map fun user =>
    user.creditBalanceUsd -
      sumWhere (fun row => row.userId = userId) CreditLedger.amountUsd db.creditLedger.rows

/-- No balance moved but by its rows. -/
def Conserves (db db' : Db) : Prop := ∀ userId, unexplained db' userId = unexplained db userId

theorem Conserves.refl (db : Db) : Conserves db db := fun _ => rfl

theorem Conserves.trans {a b c : Db} (first : Conserves a b) (second : Conserves b c) :
    Conserves a c :=
  fun userId => (second userId).trans (first userId)

section Statements

variable {db db' : Db} {now : Timestamp} {userId : Uuid} {paymentIntentId : String}
  {creditedUsd : Decimal}

theorem conserves_moveBalance {creditReversal : Bool} {missing : SqlError} {delta : Decimal}
    {entry : Decimal → CreditLedger}
    (h : db.moveBalance userId creditReversal missing delta entry = .ok db')
    (user : ∀ balanceAfter, (entry balanceAfter).userId = userId)
    (amount : ∀ balanceAfter, (entry balanceAfter).amountUsd = delta) : Conserves db db' := by
  obtain ⟨holder, users, ledger, -, -, -, husers, hledger, rfl⟩ := Db.moveBalance_ok h
  intro other
  have key : ∀ row : User, (rewrite (fun row => row.id = userId)
      (fun row => { row with creditBalanceUsd := row.creditBalanceUsd + delta }) row).id = other ↔
        row.id = other := by
    intro row
    unfold rewrite
    split <;> rfl
  unfold unexplained
  dsimp only
  rw [find_updateWhere husers key, Option.map_map, (insert_ok hledger).1]
  cases found : db.users.find fun row => row.id = other with
  | none => rfl
  | some row =>
      obtain ⟨-, hid⟩ := find_some found
      simp only [Option.map_some, Function.comp_apply, sumWhere_append, sumWhere_cons, sumWhere_nil,
        user, amount, rewrite, hid]
      by_cases here : userId = other
      · simp [here]
      · simp [here, Ne.symm here]

/-- An update that leaves the balances alone. -/
theorem conserves_users {users : Table usersTable} {p : User → Prop} [DecidablePred p]
    {f : User → User} (h : db.users.updateWhere p f = .ok users)
    (id : ∀ user, (f user).id = user.id)
    (balance : ∀ user, (f user).creditBalanceUsd = user.creditBalanceUsd) :
    Conserves db { db with users } := by
  intro other
  have key : ∀ row, (rewrite p f row).id = other ↔ row.id = other := by
    intro row
    unfold rewrite
    split
    · rw [id]
    · rfl
  unfold unexplained
  dsimp only
  rw [find_updateWhere h key, Option.map_map]
  congr 1
  funext row
  simp only [Function.comp_apply, rewrite]
  split
  · rw [balance]
  · rfl

theorem conserves_freezeAccount {reason : FrozenReason}
    (h : db.freezeAccount now userId reason = .ok db') : Conserves db db' := by
  simp only [Db.freezeAccount, bind_eq_ok, liftViolation_eq_ok] at h
  obtain ⟨users, husers, h⟩ := h
  cases h
  exact conserves_users husers (fun _ => rfl) fun _ => rfl

theorem conserves_unfreezeAccount (h : db.unfreezeAccount userId = .ok db') :
    Conserves db db' := by
  simp only [Db.unfreezeAccount, bind_eq_ok, liftViolation_eq_ok] at h
  obtain ⟨users, husers, h⟩ := h
  cases h
  exact conserves_users husers (fun _ => rfl) fun _ => rfl

theorem conserves_applyObservedReversal {tombstone : StripeObservedReversal}
    (h : db.applyObservedReversal now userId paymentIntentId creditedUsd tombstone = .ok db') :
    Conserves db db' := by
  simp only [Db.applyObservedReversal, bind_eq_ok] at h
  obtain ⟨frozen, hfrozen, reversed, hreversed, h⟩ := h
  have freezes : Conserves db frozen := by
    split at hfrozen
    · exact conserves_freezeAccount hfrozen
    · cases hfrozen
      exact .refl _
  have reverses : Conserves frozen reversed := by
    split at hreversed
    · unfold Db.reverseCredit at hreversed
      split at hreversed
      · cases hreversed
        exact .refl _
      · exact conserves_moveBalance hreversed (fun _ => rfl) fun _ => rfl
    · cases hreversed
      exact .refl _
  have both := freezes.trans reverses
  split at h
  · simp only [bind_eq_ok, liftViolation_eq_ok] at h
    obtain ⟨table, -, h⟩ := h
    cases h
    exact both
  · cases h
    exact both

theorem conserves_applyObservedReversals
    (h : db.applyObservedReversals now userId paymentIntentId creditedUsd = .ok db') :
    Conserves db db' :=
  foldlM_relate .refl (fun _ _ _ => .trans) (fun _ _ _ => conserves_applyObservedReversal) h

theorem conserves_creditPurchase {amountUsd : Decimal} {stripeSessionId : String}
    {stripePaymentIntentId : Option String} {outcome : CreditOutcome}
    (h : db.creditPurchase now userId amountUsd stripeSessionId stripePaymentIntentId =
      .ok (outcome, db')) : Conserves db db' := by
  simp only [Db.creditPurchase, bind_eq_ok] at h
  obtain ⟨-, -, -, -, h⟩ := h
  split at h
  · cases h
    exact .refl _
  · simp only [bind_eq_ok] at h
    obtain ⟨credited, hcredited, balance, -, h⟩ := h
    have credits := conserves_moveBalance hcredited (fun _ => rfl) fun _ => rfl
    cases stripePaymentIntentId with
    | none =>
        cases h
        exact credits
    | some paymentIntentId =>
        simp only [bind_eq_ok] at h
        obtain ⟨met, hmet, h⟩ := h
        cases h
        exact credits.trans (conserves_applyObservedReversals hmet)

theorem conserves_reversePurchase {objectId note : String} {outcome : ReversalOutcome}
    (h : db.reversePurchase paymentIntentId objectId note = .ok (outcome, db')) :
    Conserves db db' := by
  simp only [Db.reversePurchase, bind_eq_ok] at h
  obtain ⟨-, -, h⟩ := h
  split at h
  · cases h
    exact .refl _
  · split at h
    · cases h
      exact .refl _
    · simp only [bind_eq_ok] at h
      obtain ⟨taken, htaken, balance, -, h⟩ := h
      cases h
      exact conserves_moveBalance htaken (fun _ => rfl) fun _ => rfl

/-- Remembering a reversal moves no money. -/
theorem conserves_resolveReversalAgainstCredit {event : ReversalEvent}
    {found : Option CreditLedger}
    (h : db.resolveReversalAgainstCredit now event = .ok (found, db')) : Conserves db db' := by
  simp only [Db.resolveReversalAgainstCredit, bind_eq_ok] at h
  obtain ⟨-, -, -, -, h⟩ := h
  split at h
  · cases h
    exact .refl _
  · simp only [Db.insertObservedReversal, bind_eq_ok] at h
    obtain ⟨observed, ⟨-, -, -, -, tombstones, -, hobserved⟩, h⟩ := h
    cases hobserved
    cases h
    exact .refl _

theorem conserves_markIntentReversalsApplied
    (h : db.markIntentReversalsApplied now paymentIntentId = .ok db') : Conserves db db' := by
  simp only [Db.markIntentReversalsApplied, bind_eq_ok] at h
  obtain ⟨-, -, tombstones, -, h⟩ := h
  cases h
  exact .refl _

end Statements

/-! ## The steps -/

section Steps

variable {stripe : StripeObjects} {bounds : CheckoutBounds} {w w' : World} {now : Timestamp}
  {userId : Uuid} {paymentIntentId : String} {n : Nat} {event : ReversalEvent} {fate : Fate}
  {db db' : AutopayDb}

theorem conserves_run {result : Except SqlError Db}
    (commits : ∀ db, result = .ok db → Conserves w.db.toDb db) :
    Conserves w.db.toDb (w.run result).db.toDb := by
  cases result with
  | error _ => exact .refl _
  | ok db => exact commits db rfl

theorem conserves_transact {α : Type} {next : World → α → World}
    {result : Except SqlError (α × Db)} (same : ∀ w answer, (next w answer).db = w.db)
    (commits : ∀ answer db, result = .ok (answer, db) → Conserves w.db.toDb db) :
    Conserves w.db.toDb (w.transact n fate next result).db.toDb := by
  unfold World.transact
  split
  · exact .refl _
  next answer db =>
    cases fate with
    | commit =>
        rw [same]
        exact commits answer db rfl
    | commitUnseen => exact commits answer db rfl
    | rollback => exact .refl _

@[simp] theorem db_assess (credit : CreditLedger) : (w.assess n event credit).db = w.db := by
  unfold World.assess
  split <;> rfl

theorem conserves_runAutopay {result : Except SqlError AutopayDb}
    (commits : ∀ db, result = .ok db → db.toDb = w.db.toDb) :
    Conserves w.db.toDb (w.runAutopay result).db.toDb := by
  cases result with
  | error _ => exact .refl _
  | ok db =>
      show Conserves w.db.toDb db.toDb
      rw [commits db rfl]
      exact .refl _

theorem toDb_updateIntents {p : StripeAutopayIntent → Prop} [DecidablePred p]
    {f : StripeAutopayIntent → StripeAutopayIntent} {n : Nat}
    (h : db.updateIntents p f = .ok (n, db')) : db'.toDb = db.toDb := by
  obtain ⟨intents, -, -, rfl⟩ := updateIntents_ok h
  rfl

theorem toDb_insertUnlessConflict {row : StripeAutopayIntent} {inserted : Bool}
    (h : db.insertUnlessConflict row = .ok (inserted, db')) :
    db'.toDb = db.toDb := by
  rcases insertUnlessConflict_ok h with rfl | ⟨intents, -, rfl⟩ <;> rfl

theorem toDb_recoverIntent {collected : Uuid × Decimal × Decimal}
    (h : db.recoverIntent now paymentIntentId collected = .ok db') : db'.toDb = db.toDb := by
  rcases recoverIntent_ok h with ⟨-, rfl⟩ | ⟨-, intents, -, rfl⟩ <;> rfl

theorem conserves_settles {outcome : AutopayOutcome}
    (h : Settles db now paymentIntentId outcome db') : Conserves db.toDb db'.toDb := by
  cases h with
  | alreadySettled => exact .refl _
  | unknown => exact .refl _
  | withheld => exact .refl _
  | credited mem pending moved credited =>
      obtain ⟨paid, hpaid, hmoney⟩ := credited.paid
      exact (conserves_moveBalance hpaid (fun _ => rfl) fun _ => rfl).trans
        (conserves_applyObservedReversals hmoney)

theorem conserves_settleAutopayIntent {recovered : Option (Uuid × Decimal × Decimal)}
    {answer : Except SqlError AutopayOutcome}
    (h : db.settleAutopayIntent now paymentIntentId recovered = .ok (answer, db')) :
    Conserves db.toDb db'.toDb := by
  cases settleAutopayIntent_ok h with
  | stored settles => exact conserves_settles settles
  | agreed recovers mem id agrees settles =>
      have same := toDb_recoverIntent recovers
      rw [← same]
      exact conserves_settles settles
  | disagreed recovers =>
      have same := toDb_recoverIntent recovers
      show Conserves db.toDb _
      rw [← same]
      exact .refl _

theorem conserves_step {action : Action} (h : step stripe bounds w action = some w') :
    Conserves w.db.toDb w'.db.toDb := by
  unfold Billing.step at h
  split at h
  next genuine =>
    cases action with
    | creditPurchase now userId amountUsd stripeSessionId stripePaymentIntentId =>
        cases h
        refine conserves_run fun db h => ?_
        obtain ⟨result, hresult, rfl⟩ := map_eq_ok.mp h
        exact conserves_creditPurchase hresult
    | post row creditReversal =>
        cases h
        exact conserves_run fun db h => conserves_moveBalance h (fun _ => rfl) fun _ => rfl
    | freezeAccount now userId =>
        cases h
        exact conserves_run fun db h => conserves_freezeAccount h
    | unfreezeAccount userId =>
        cases h
        exact conserves_run fun db h => conserves_unfreezeAccount h
    | deliver event =>
        dsimp only at h
        unfold World.receive at h
        split_ifs at h
        split at h
        · cases h
          exact .refl _
        · cases h
          exact .refl _
        · split_ifs at h
          cases h
          exact .refl _
    | resolve n now fate =>
        dsimp only at h
        split at h
        next event found =>
          obtain rfl := Option.some.inj h
          unfold World.runResolve
          refine conserves_transact (fun w answer => ?_) fun answer db h =>
            conserves_resolveReversalAgainstCredit h
          cases answer with
          | none => rfl
          | some credit =>
              dsimp only
              split
              · rfl
              · exact db_assess credit
        · cases h
    | freeze n now fate =>
        dsimp only at h
        split at h
        next event credit found =>
          obtain rfl := Option.some.inj h
          unfold World.runFreeze
          refine conserves_transact (fun w _ => db_assess credit) fun answer db h => ?_
          obtain ⟨frozen, hfrozen, h⟩ := map_eq_ok.mp h
          cases h
          exact conserves_freezeAccount hfrozen
        · cases h
    | reverse n fate =>
        dsimp only at h
        split at h
        next event credit found =>
          obtain rfl := Option.some.inj h
          unfold World.runReverse
          refine conserves_transact (fun w answer => ?_) fun answer db h =>
            conserves_reversePurchase h
          cases answer <;> rfl
        · cases h
    | stamp n now fate =>
        dsimp only at h
        split at h
        next event found =>
          obtain rfl := Option.some.inj h
          unfold World.runStamp
          refine conserves_transact (fun w _ => rfl) fun answer db h => ?_
          obtain ⟨stamped, hstamped, h⟩ := map_eq_ok.mp h
          cases h
          exact conserves_markIntentReversalsApplied hstamped
        · cases h
    | crash n =>
        cases h
        exact .refl _
    | armAutopay userId thresholdUsd topupUsd hasCard =>
        cases h
        unfold World.runArm
        split
        next db h =>
          rcases armAutopay_ok h with ⟨armed, -⟩ | ⟨-, -, settings, -, rfl⟩
          · cases armed
          · exact .refl _
        · exact .refl _
    | disarmAutopay userId =>
        cases h
        refine conserves_runAutopay (w := w) fun db h => ?_
        obtain ⟨settings, -, rfl⟩ := updateSettings_ok h
        rfl
    | claimAutopayAttempt now userId amountUsd chargeAmountUsd idempotencyKey =>
        dsimp only at h
        split at h
        · cases h
        · cases h
          refine conserves_runAutopay (w := w) fun db h => ?_
          obtain ⟨result, hresult, rfl⟩ := map_eq_ok.mp h
          unfold claimAutopayAttempt at hresult
          split at hresult
          · exact toDb_insertUnlessConflict hresult
          · cases hresult
            rfl
    | renameClaim now idempotencyKey paymentIntentId =>
        cases h
        unfold World.runRename
        split
        next db h =>
          show Conserves w.db.toDb db.toDb
          rw [toDb_updateIntents h]
          exact .refl _
        next db _ h =>
          show Conserves w.db.toDb db.toDb
          rw [toDb_updateIntents h]
          exact .refl _
        · exact .refl _
    | dropClaim idempotencyKey =>
        dsimp only at h
        split at h
        · cases h
          exact .refl _
        · cases h
    | freezeAutopayTax now paymentIntentId taxUsd calculationId =>
        cases h
        refine conserves_runAutopay (w := w) fun db h => ?_
        obtain ⟨result, hresult, rfl⟩ := map_eq_ok.mp h
        exact toDb_updateIntents hresult
    | settleAutopayIntent now paymentIntentId recovered =>
        cases h
        unfold World.runSettle
        split
        next db h =>
          split <;> exact conserves_settleAutopayIntent h
        next h => exact conserves_settleAutopayIntent h
        · exact .refl _
    | failAutopayIntent now paymentIntentId =>
        cases h
        unfold World.runFail
        split
        next db h =>
          have same : db.toDb = w.db.toDb := by
            rcases failAutopayIntent_ok h with ⟨-, rfl⟩ | ⟨-, _, -, -, _, _, -, -, rfl⟩ <;> rfl
          split
          · show Conserves w.db.toDb db.toDb
            rw [same]
            exact .refl _
          · show Conserves w.db.toDb db.toDb
            rw [same]
            exact .refl _
        · exact .refl _
    | recordAutopayCharge now paymentIntentId userId amountUsd chargeAmountUsd =>
        cases h
        refine conserves_runAutopay (w := w) fun db h => ?_
        simp only [AutopayDb.recordAutopayCharge, bind_eq_ok] at h
        obtain ⟨result, hresult, h⟩ := h
        cases h
        exact toDb_insertUnlessConflict hresult
  · cases h

theorem conserves_reaches {C : World → Action → Prop} (run : Reaches stripe bounds C w w') :
    Conserves w.db.toDb w'.db.toDb := by
  induction run with
  | refl => exact .refl _
  | tail _ _ next ih => exact ih.trans (conserves_step next)

end Steps

end ZeroRouter.Billing
