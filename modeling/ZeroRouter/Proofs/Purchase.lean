import ZeroRouter.Stripe.System

/-!
# Purchases are credited once, for what was priced

A purchase row is written by one transaction, for arguments that both layers
took from the purchase record of the session.  Records are never deleted and
their quotes never change, so what a delivery read stays true until it credits,
whatever other deliveries do in between.
-/

namespace ZeroRouter.Checkout

open Relational Table

variable {db db' : Db} {n : Nat} {event : StripeEvent} {now : Timestamp} {stripeSessionId : String}
  {tombstone : StripeObservedReversal} {purchase : Purchase} {d : Delivery} {stage : Stage}
  {fate : Fate} {row : CreditLedger}

/-! ## The billing transactions -/

section Billing

variable {db db' : Db} {now : Timestamp} {userId : Uuid} {paymentIntentId stripeSessionId : String}
  {amountUsd : Decimal}

/-- No account is lost. -/
def HoldersKept (db db' : Db) : Prop :=
  ∀ user ∈ db.users, ∃ user' ∈ db'.users, user'.id = user.id

theorem HoldersKept.of_eq (same : db'.users = db.users) : HoldersKept db db' := by
  intro user huser
  rw [← same] at huser
  exact ⟨user, huser, rfl⟩

theorem HoldersKept.of_updateWhere {p : User → Prop} [DecidablePred p] {f : User → User}
    (id : ∀ user, (f user).id = user.id) (updated : db.users.updateWhere p f = .ok db'.users) :
    HoldersKept db db' := by
  intro user huser
  refine ⟨_, (mem_updateWhere updated).mpr ⟨user, huser, rfl⟩, ?_⟩
  unfold rewrite
  split
  · exact id user
  · rfl

/-- A step that neither touches a purchase record nor writes a purchase. -/
structure NoPurchase (db db' : Db) : Prop where
  intents : db'.stripeCheckoutIntents = db.stripeCheckoutIntents
  purchases : ∀ row ∈ db'.creditLedger, row.entryType = .purchase → row ∈ db.creditLedger
  holders : HoldersKept db db'

theorem NoPurchase.refl (db : Db) : NoPurchase db db := ⟨rfl, fun _ hrow _ => hrow, .of_eq rfl⟩

theorem NoPurchase.trans {a b c : Db} (first : NoPurchase a b) (second : NoPurchase b c) :
    NoPurchase a c where
  intents := second.intents.trans first.intents
  purchases row hrow purchase := first.purchases row (second.purchases row hrow purchase) purchase
  holders user huser := by
    obtain ⟨user', huser', same⟩ := first.holders user huser
    obtain ⟨user'', huser'', same'⟩ := second.holders user' huser'
    exact ⟨user'', huser'', same'.trans same⟩

theorem freezeForDispute_ok (h : db.freezeForDispute now userId = .ok db') : NoPurchase db db' := by
  simp only [Db.freezeForDispute, bind_eq_ok, liftViolation_eq_ok] at h
  obtain ⟨users, husers, h⟩ := h
  cases h
  refine ⟨rfl, fun _ hrow _ => hrow, .of_updateWhere ?_ husers⟩
  exact fun _ => rfl

theorem reverseCredit_ok
    (h : db.reverseCredit userId paymentIntentId amountUsd tombstone = .ok db') :
    NoPurchase db db' := by
  unfold Db.reverseCredit at h
  split at h
  · cases h
    exact .refl db
  · obtain ⟨user, users, ledger, -, -, -, husers, hledger, rfl⟩ := Db.moveBalance_ok h
    refine ⟨rfl, fun row hrow purchase => ?_, .of_updateWhere ?_ husers⟩
    swap
    · exact fun _ => rfl
    rcases (mem_insert hledger).mp hrow with before | rfl
    · exact before
    · cases purchase

theorem applyObservedReversal_ok
    (h : db.applyObservedReversal now userId paymentIntentId amountUsd tombstone = .ok db') :
    NoPurchase db db' := by
  simp only [Db.applyObservedReversal, bind_eq_ok] at h
  obtain ⟨frozen, hfrozen, reversed, hreversed, h⟩ := h
  have freezing : NoPurchase db frozen := by
    split at hfrozen
    · exact freezeForDispute_ok hfrozen
    · cases hfrozen
      exact .refl db
  have reversing : NoPurchase frozen reversed := by
    split at hreversed
    · exact reverseCredit_ok hreversed
    · cases hreversed
      exact .refl frozen
  refine (freezing.trans reversing).trans ?_
  split at h
  · simp only [bind_eq_ok, liftViolation_eq_ok] at h
    obtain ⟨table, -, h⟩ := h
    cases h
    exact ⟨rfl, fun _ hrow _ => hrow, .of_eq rfl⟩
  · cases h
    exact .refl _

theorem applyObservedReversals_ok
    (h : db.applyObservedReversals now userId paymentIntentId amountUsd = .ok db') :
    NoPurchase db db' :=
  foldlM_relate .refl (fun _ _ _ => .trans) (fun _ _ _ => applyObservedReversal_ok) h

/-- A credit leaves the purchase records and the accounts alone and writes at most the
    purchase it was called for. -/
theorem creditPurchase_ok {paymentIntent : Option String} {outcome : CreditOutcome}
    (h : db.creditPurchase now userId amountUsd stripeSessionId paymentIntent = .ok (outcome, db')) :
    db'.stripeCheckoutIntents = db.stripeCheckoutIntents ∧ HoldersKept db db' ∧
      ∀ row ∈ db'.creditLedger, row.entryType = .purchase → row ∈ db.creditLedger ∨
        (row.stripeSessionId = some stripeSessionId ∧ row.userId = userId ∧
          row.amountUsd = amountUsd) := by
  simp only [Db.creditPurchase, bind_eq_ok, ensure_eq_ok] at h
  obtain ⟨-, -, -, -, h⟩ := h
  split at h
  · cases h
    exact ⟨rfl, .of_eq rfl, fun _ hrow _ => .inl hrow⟩
  simp only [bind_eq_ok] at h
  obtain ⟨credited, hcredited, balanceAfter, -, h⟩ := h
  obtain ⟨user, users, ledger, -, -, -, husers, hledger, rfl⟩ := Db.moveBalance_ok hcredited
  have tail : NoPurchase { db with users, creditLedger := ledger } db' := by
    cases paymentIntent with
    | none =>
        cases h
        exact .refl _
    | some paymentIntentId =>
        simp only [bind_eq_ok] at h
        obtain ⟨reversed, hreversed, h⟩ := h
        cases h
        exact applyObservedReversals_ok hreversed
  refine ⟨tail.intents, ?_, fun row hrow purchase => ?_⟩
  · intro holder hholder
    have moved : HoldersKept db { db with users, creditLedger := ledger } := by
      refine .of_updateWhere ?_ husers
      exact fun _ => rfl
    obtain ⟨after, hafter, same⟩ := moved holder hholder
    obtain ⟨last, hlast, same'⟩ := tail.holders after hafter
    exact ⟨last, hlast, same'.trans same⟩
  · rcases (mem_insert hledger).mp (tail.purchases row hrow purchase) with before | rfl
    · exact .inl before
    · exact .inr ⟨rfl, rfl, rfl⟩

/-- What a credit moves: the balance of its user and nobody else's, and its own row. -/
structure Credited (db db' : Db) (userId : Uuid) (amountUsd : Decimal) (stripeSessionId : String)
    (paymentIntent : Option String) : Prop where
  users : ∀ user, user ∈ db'.users ↔ ∃ old ∈ db.users, user =
    { old with creditBalanceUsd :=
        old.creditBalanceUsd + if old.id = userId then amountUsd else 0 }
  row : ∃ balanceAfter, ∀ row, row ∈ db'.creditLedger ↔ row ∈ db.creditLedger ∨
    row = purchaseEntry userId amountUsd stripeSessionId paymentIntent balanceAfter

/-- The reversals Stripe has reported for an intent before its credit. -/
def meetReversals (db : Db) (now : Timestamp) (userId : Uuid) (amountUsd : Decimal) :
    Option String → Except SqlError Db
  | none => .ok db
  | some paymentIntentId => db.applyObservedReversals now userId paymentIntentId amountUsd

/-- A first credit to an account that exists succeeds, and is of the whole amount; the
    reversals Stripe has reported before it are met in the same transaction. -/
theorem creditPurchase_credits (paymentIntent : Option String)
    (holder : ∃ user ∈ db.users, user.id = userId) (positive : 0 < amountUsd)
    (session : (trim stripeSessionId).toList.isEmpty = false)
    (fresh : ¬ ∃ row ∈ db.creditLedger, row.stripeSessionId = some stripeSessionId) :
    ∃ balanceAfter credited, Credited db credited userId amountUsd stripeSessionId paymentIntent ∧
      db.creditPurchase now userId amountUsd stripeSessionId paymentIntent =
        (meetReversals credited now userId amountUsd paymentIntent).map
          fun db' => (.applied balanceAfter, db') := by
  obtain ⟨user, huser, hid⟩ := holder
  have found : db.users.find (fun user => user.id = userId) = some user :=
    find_of_mem huser hid fun _ _ ha hb => ha.trans hb.symm
  obtain ⟨users, husers⟩ : ∃ users, db.users.updateWhere (fun row => row.id = userId)
      (fun row => { row with creditBalanceUsd := row.creditBalanceUsd + amountUsd }) = .ok users := by
    refine updateWhere_isOk (fun row hrow _ => db.users.checked row hrow) ?_
    intro a b
    unfold rewrite
    split <;> split <;> exact id
  obtain ⟨ledger, hledger⟩ : ∃ ledger, db.creditLedger.insert (purchaseEntry userId amountUsd
      stripeSessionId paymentIntent (user.creditBalanceUsd + amountUsd)) = .ok ledger := by
    apply insert_isOk
    · refine (creditLedgerCheck_iff _).mpr ?_
      simp [purchaseEntry, positive, positive.ne']
    · rintro row hrow (⟨-, same⟩ | ⟨requested, same⟩)
      · exact fresh ⟨row, hrow, same⟩
      · exact requested same
  have moved : db.moveBalance userId false (.protocol "credit purchase found no such user") amountUsd
      (purchaseEntry userId amountUsd stripeSessionId paymentIntent) =
        .ok { db with users, creditLedger := ledger } := by
    have allowed : overdraftRejected false user.creditBalanceUsd
        (user.creditBalanceUsd + amountUsd) = false := by
      have grows : ¬ user.creditBalanceUsd + amountUsd < user.creditBalanceUsd := by linarith
      simp [overdraftRejected, grows]
    unfold Db.moveBalance
    rw [found]
    simp only [bind_eq_ok, ensure_eq_ok, liftViolation_eq_ok]
    exact ⟨(), allowed, users, husers, ledger, hledger, rfl⟩
  obtain ⟨balanceAfter, hbalance⟩ :
      ∃ balanceAfter, Db.balance { db with users, creditLedger := ledger } userId =
        .ok balanceAfter := by
    unfold Db.balance
    cases lookup : users.find fun user => user.id = userId with
    | some user => exact ⟨_, rfl⟩
    | none =>
        have kept := (mem_users_of_moved husers).mpr ⟨user, huser, rfl⟩
        exact (find_none lookup _ kept hid).elim
  have credited : Credited db { db with users, creditLedger := ledger } userId amountUsd
      stripeSessionId paymentIntent :=
    ⟨fun _ => mem_users_of_moved husers, _, fun _ => mem_insert hledger⟩
  refine ⟨balanceAfter, _, credited, ?_⟩
  unfold Db.creditPurchase
  simp only [ensure, if_pos positive, if_pos session, if_neg fresh, moved, bind, Except.bind,
    hbalance]
  cases paymentIntent with
  | none => rfl
  | some paymentIntentId =>
      show Except.bind (Db.applyObservedReversals _ now userId paymentIntentId amountUsd) _ =
        Except.map _ (Db.applyObservedReversals _ now userId paymentIntentId amountUsd)
      cases Db.applyObservedReversals { db with users, creditLedger := ledger } now userId
        paymentIntentId amountUsd <;> rfl

end Billing

/-! ## Purchase records -/

/-- The columns of a purchase record the mutation trigger keeps. -/
structure SameQuote (old new : StripeCheckoutIntent) : Prop where
  stripeSessionId : new.stripeSessionId = old.stripeSessionId
  userId : new.userId = old.userId
  expectedAmountCents : new.expectedAmountCents = old.expectedAmountCents
  expectedCreditUsd : new.expectedCreditUsd = old.expectedCreditUsd
  currency : new.currency = old.currency

theorem SameQuote.refl (row : StripeCheckoutIntent) : SameQuote row row := ⟨rfl, rfl, rfl, rfl, rfl⟩

/-- Every record is still there, as it was quoted. -/
def QuotesKept (db db' : Db) : Prop :=
  ∀ old ∈ db.stripeCheckoutIntents, ∃ new ∈ db'.stripeCheckoutIntents, SameQuote old new

theorem QuotesKept.of_eq (same : db'.stripeCheckoutIntents = db.stripeCheckoutIntents) :
    QuotesKept db db' := by
  intro old hold
  rw [← same] at hold
  exact ⟨old, hold, .refl old⟩

/-- Every record is somebody's, as its foreign key demands. -/
def RecordsOwned (db : Db) : Prop :=
  ∀ intent ∈ db.stripeCheckoutIntents, ∃ user ∈ db.users, user.id = intent.userId

theorem RecordsOwned.credited (owned : RecordsOwned db)
    (intents : db'.stripeCheckoutIntents = db.stripeCheckoutIntents)
    (holders : HoldersKept db db') : RecordsOwned db' := by
  intro intent hintent
  rw [intents] at hintent
  obtain ⟨user, huser, owner⟩ := owned intent hintent
  obtain ⟨user', huser', same⟩ := holders user huser
  exact ⟨user', huser', same.trans owner⟩

theorem checkoutIntent_eq_some {intent : StripeCheckoutIntent} :
    db.checkoutIntent stripeSessionId = some intent ↔
      intent ∈ db.stripeCheckoutIntents ∧ intent.stripeSessionId = stripeSessionId := by
  constructor
  · exact find_some
  · rintro ⟨hmem, hid⟩
    exact find_of_mem hmem hid fun _ _ ha hb => ha.trans hb.symm

theorem recordCheckoutIntent_ok {currency : String} {userId : Uuid} {expectedAmountCents : Int}
    {expectedCreditUsd : Decimal}
    (h : db.recordCheckoutIntent now stripeSessionId userId expectedAmountCents expectedCreditUsd
      currency = .ok db') :
    QuotesKept db db' ∧ (RecordsOwned db → RecordsOwned db') ∧ db'.users = db.users ∧
      db'.creditLedger = db.creditLedger := by
  simp only [Db.recordCheckoutIntent, bind_eq_ok, liftViolation_eq_ok, ensure_eq_ok] at h
  obtain ⟨table, inserted, -, owner, h⟩ := h
  cases h
  refine ⟨fun old hold => ⟨old, ?_, .refl old⟩, fun owned intent hintent => ?_, rfl, rfl⟩
  · exact (mem_insert inserted).mpr (.inl hold)
  · rcases (mem_insert inserted).mp hintent with before | rfl
    · exact owned intent before
    · exact owner

theorem settleCheckoutIntent_ok {settled : Bool}
    (h : db.settleCheckoutIntent now stripeSessionId = .ok (settled, db')) :
    QuotesKept db db' ∧ (RecordsOwned db → RecordsOwned db') ∧ db'.users = db.users ∧
      db'.creditLedger = db.creditLedger := by
  simp only [Db.settleCheckoutIntent, bind_eq_ok, liftViolation_eq_ok] at h
  obtain ⟨table, updated, h⟩ := h
  cases h
  have quote : ∀ old : StripeCheckoutIntent, SameQuote old (rewrite
      (fun row => row.stripeSessionId = stripeSessionId ∧ row.settledAt = none)
      (fun row => { row with settledAt := some now }) old) := by
    intro old
    unfold rewrite
    split
    · exact ⟨rfl, rfl, rfl, rfl, rfl⟩
    · exact .refl old
  refine ⟨fun old hold => ⟨_, (mem_updateWhere updated).mpr ⟨old, hold, rfl⟩, quote old⟩,
    fun owned intent hintent => ?_, rfl, rfl⟩
  obtain ⟨old, hold, rfl⟩ := (mem_updateWhere updated).mp hintent
  obtain ⟨user, huser, owner⟩ := owned old hold
  exact ⟨user, huser, owner.trans (quote old).userId.symm⟩

/-- What an event was found to buy, it is still found to buy. -/
theorem corroborate_kept {parser : MetadataParser} {object : Value} (kept : QuotesKept db db')
    (h : corroborate parser db.checkoutIntent object = .ok (some purchase)) :
    corroborate parser db'.checkoutIntent object = .ok (some purchase) := by
  simp only [corroborate, bind_eq_ok] at h ⊢
  obtain ⟨paid, hpaid, h⟩ := h
  refine ⟨paid, hpaid, ?_⟩
  cases paid with
  | none => cases h
  | some paid =>
      simp only [bind_eq_ok] at h ⊢
      obtain ⟨passed, hpassed, h⟩ := h
      refine ⟨passed, ?_, h⟩
      simp only [corroborateIntent, bind_eq_ok, require_eq_ok, ensure_eq_ok] at hpassed ⊢
      obtain ⟨intent, found, -, agrees, hpassed⟩ := hpassed
      obtain ⟨hmem, hid⟩ := checkoutIntent_eq_some.mp found
      obtain ⟨new, hnew, same⟩ := kept intent hmem
      refine ⟨new, checkoutIntent_eq_some.mpr ⟨hnew, same.stripeSessionId.trans hid⟩, (), ?_, ?_⟩
      · rw [same.userId, same.expectedAmountCents, same.currency]
        exact agrees
      · rw [same.userId, same.expectedCreditUsd]
        exact hpassed

/-! ## One step -/

section Step

variable {parser : MetadataParser} {w w' : World} {a : Action}

/-- What a step does to the database. -/
inductive DbChange (w : World) (a : Action) (db : Db) : Prop where
  | kept (same : db = w.db)
  | quotes (kept : QuotesKept w.db db) (owned : RecordsOwned w.db → RecordsOwned db)
      (users : db.users = w.db.users) (creditLedger : db.creditLedger = w.db.creditLedger)
  | credited (delivery : Delivery) (mem : delivery ∈ w.deliveries)
      (event : w.event? a = some delivery.event) (purchase : Purchase)
      (stage : delivery.stage = .corroborated purchase) (now : Timestamp) (outcome : CreditOutcome)
      (effect : w.db.creditPurchase now purchase.userId purchase.creditUsd purchase.sessionId
        purchase.paymentIntent = .ok (outcome, db))

/-- Where a delivery in flight after a step came from: it was in flight, it was just
    delivered, or it moved on, and to be credited only for passing both layers. -/
inductive DeliveryOrigin (parser : MetadataParser) (w w' : World) (delivery : Delivery) : Prop where
  | before (mem : delivery ∈ w.deliveries)
  | fresh (delivered : delivery.event ∈ w'.delivered) (stage : delivery.stage = .received)
  | moved (earlier : Delivery) (mem : earlier ∈ w.deliveries)
      (event : earlier.event = delivery.event)
      (passed : ∀ purchase, delivery.stage = .corroborated purchase → w'.db = w.db ∧
        corroborate parser w.db.checkoutIntent delivery.event.object = .ok (some purchase))

structure Change (parser : MetadataParser) (w : World) (a : Action) (w' : World) : Prop where
  db : DbChange w a w'.db
  deliveries : ∀ delivery ∈ w'.deliveries, DeliveryOrigin parser w w' delivery
  delivered : w.delivered ⊆ w'.delivered

/-- A step that only ends deliveries, besides what it does to the database. -/
theorem Change.of_fewer (db : DbChange w a w'.db) (fewer : ∀ d ∈ w'.deliveries, d ∈ w.deliveries)
    (delivered : w'.delivered = w.delivered) : Change parser w a w' where
  db := db
  deliveries delivery hmem := .before (fewer delivery hmem)
  delivered := by
    rw [delivered]
    exact List.Subset.refl _

theorem mem_of_mem_eraseIdx {deliveries : List Delivery} (h : d ∈ deliveries.eraseIdx n) :
    d ∈ deliveries :=
  (List.eraseIdx_sublist deliveries n).subset h

/-- The deliveries an advance leaves are the others and the one it moved. -/
theorem mem_advance (h : d ∈ (w.advance n event stage).deliveries) :
    d ∈ w.deliveries ∨ d = ⟨event, stage⟩ :=
  List.mem_or_eq_of_mem_set h

theorem Change.of_answer {response : Except WebhookFailure Unit} {v : World}
    (db : DbChange w a v.db) (deliveries : v.deliveries = w.deliveries)
    (delivered : v.delivered = w.delivered) : Change parser w a (v.answer n event response) := by
  refine .of_fewer db ?_ delivered
  intro d hd
  have kept := mem_of_mem_eraseIdx hd
  rw [deliveries] at kept
  exact kept

theorem Change.of_checkoutIntent (mem : ⟨event, stage⟩ ∈ w.deliveries) :
    Change parser w a (w.runCheckoutIntent parser n event) := by
  unfold World.runCheckoutIntent
  split
  · exact .of_answer (.kept rfl) rfl rfl
  · exact .of_answer (.kept rfl) rfl rfl
  · next purchase passed =>
      refine ⟨.kept rfl, ?_, List.Subset.refl _⟩
      intro d hd
      rcases mem_advance hd with before | rfl
      · exact .before before
      · refine .moved _ mem rfl fun other hstage => ⟨rfl, ?_⟩
        cases hstage
        exact passed

theorem Change.of_creditPurchase (mem : ⟨event, .corroborated purchase⟩ ∈ w.deliveries)
    (event? : w.event? a = some event) :
    Change parser w a (w.runCreditPurchase n event purchase now fate) := by
  unfold World.runCreditPurchase
  split
  · exact .of_answer (.kept rfl) rfl rfl
  · next outcome db effect =>
      have credited : DbChange w a db :=
        .credited _ mem event? purchase rfl now outcome effect
      cases fate with
      | commit =>
          refine ⟨credited, ?_, List.Subset.refl _⟩
          intro d hd
          rcases mem_advance (w := { w with db }) hd with before | rfl
          · exact .before before
          · exact .moved _ mem rfl fun other hstage => by cases hstage
      | commitUnseen => exact .of_answer credited rfl rfl
      | rollback => exact .of_answer (.kept rfl) rfl rfl

theorem Change.of_settleCheckoutIntent {sessionId : String} :
    Change parser w a (w.runSettleCheckoutIntent n event sessionId now fate) := by
  unfold World.runSettleCheckoutIntent
  simp only
  split
  · cases stamped : w.db.settleCheckoutIntent now sessionId with
    | error e => exact .of_answer (.kept rfl) rfl rfl
    | ok result =>
        obtain ⟨settled, db⟩ := result
        obtain ⟨kept, owned, users, creditLedger⟩ := settleCheckoutIntent_ok stamped
        exact .of_answer (.quotes kept owned users creditLedger) rfl rfl
  · exact .of_answer (.kept rfl) rfl rfl

/-- Every step makes a change of this kind. -/
theorem step_change (h : step parser w a = some w') : Change parser w a w' := by
  unfold step at h
  split at h
  case isFalse => cases h
  cases a with
  | tick clock =>
      simp only at h
      split at h
      · cases h
        exact .of_fewer (.kept rfl) (fun _ hd => hd) rfl
      · cases h
  | recordCheckoutIntent now stripeSessionId userId expectedAmountCents expectedCreditUsd currency =>
      cases h
      unfold World.run
      split
      · next db recorded =>
          obtain ⟨kept, owned, users, creditLedger⟩ := recordCheckoutIntent_ok recorded
          exact .of_fewer (.quotes kept owned users creditLedger) (fun _ hd => hd) rfl
      · exact .of_fewer (.kept rfl) (fun _ hd => hd) rfl
  | deliver event =>
      simp only at h
      split at h
      · cases h
        refine ⟨.kept rfl, ?_, List.subset_cons_self _ _⟩
        intro d hd
        rcases List.mem_cons.mp hd with rfl | before
        · exact .fresh List.mem_cons_self rfl
        · exact .before before
      · cases h
        exact ⟨.kept rfl, fun _ hd => .before hd, List.subset_cons_self _ _⟩
      · cases h
      · cases h
  | checkoutIntent n =>
      simp only at h
      split at h
      · next event found =>
          cases h
          exact .of_checkoutIntent (List.mem_of_getElem? found)
      · cases h
  | creditPurchase n now fate =>
      simp only at h
      split at h
      · next event purchase found =>
          cases h
          refine .of_creditPurchase (List.mem_of_getElem? found) ?_
          simp [World.event?, found]
      · cases h
  | settleCheckoutIntent n now fate =>
      simp only at h
      split at h
      · cases h
        exact .of_settleCheckoutIntent
      · cases h
  | unreadable n =>
      simp only at h
      split at h
      · split at h
        · cases h
          exact .of_answer (.kept rfl) rfl rfl
        · cases h
      · cases h
  | crash n =>
      cases h
      exact .of_fewer (.kept rfl) (fun _ hd => mem_of_mem_eraseIdx hd) rfl

end Step

/-! ## The invariant -/

section Invariant

variable {parser : MetadataParser} {w w' : World} {a : Action}

/-- What is true of a credited purchase: the session has a record, the row is for
    its user and its credit, and an event of the session reported that the money it
    expects was collected. -/
def World.Priced (w : World) (row : CreditLedger) : Prop :=
  ∃ intent ∈ w.db.stripeCheckoutIntents, row.stripeSessionId = some intent.stripeSessionId ∧
    row.userId = intent.userId ∧ row.amountUsd = intent.expectedCreditUsd ∧
    ∃ event ∈ w.delivered, event.object.Reports intent.stripeSessionId intent.expectedAmountCents

structure Inv (parser : MetadataParser) (w : World) : Prop where
  delivered : ∀ delivery ∈ w.deliveries, delivery.event ∈ w.delivered
  passed : ∀ delivery ∈ w.deliveries, ∀ purchase, delivery.stage = .corroborated purchase →
    corroborate parser w.db.checkoutIntent delivery.event.object = .ok (some purchase)
  purchases : ∀ row ∈ w.db.creditLedger, row.entryType = .purchase → w.Priced row

theorem Inv.opening (h : w.Opening) : Inv parser w where
  delivered := by simp [h.deliveries]
  passed := by simp [h.deliveries]
  purchases row hrow purchase := absurd purchase (h.creditLedger row hrow)

theorem DbChange.quotesKept (h : DbChange w a db) : QuotesKept w.db db := by
  cases h with
  | kept same => exact .of_eq (by rw [same])
  | quotes kept => exact kept
  | credited delivery mem event purchase stage now outcome effect =>
      exact .of_eq (creditPurchase_ok effect).1

theorem DbChange.recordsOwned (h : DbChange w a db) (owned : RecordsOwned w.db) :
    RecordsOwned db := by
  cases h with
  | kept same =>
      rw [same]
      exact owned
  | quotes _ keeps => exact keeps owned
  | credited delivery mem event purchase stage now outcome effect =>
      obtain ⟨intents, holders, -⟩ := creditPurchase_ok effect
      exact owned.credited intents holders

theorem World.Priced.kept (priced : w.Priced row) (h : Change parser w a w') : w'.Priced row := by
  obtain ⟨intent, hintent, session, user, credit, event, hevent, reports⟩ := priced
  obtain ⟨new, hnew, same⟩ := h.db.quotesKept intent hintent
  refine ⟨new, hnew, ?_, ?_, ?_, event, h.delivered hevent, ?_⟩
  · rw [same.stripeSessionId]
    exact session
  · rw [same.userId]
    exact user
  · rw [same.expectedCreditUsd]
    exact credit
  · rw [same.stripeSessionId, same.expectedAmountCents]
    exact reports

/-- A purchase a step writes is for the record its session had before the step. -/
theorem Inv.purchase_written (inv : Inv parser w) (h : Change parser w a w')
    (hrow : row ∈ w'.db.creditLedger) (purchase : row.entryType = .purchase) :
    row ∈ w.db.creditLedger ∨ w.Priced row := by
  cases h.db with
  | kept same =>
      rw [same] at hrow
      exact .inl hrow
  | quotes kept owned users creditLedger =>
      rw [creditLedger] at hrow
      exact .inl hrow
  | credited delivery mem event bought stage now outcome effect =>
      rcases (creditPurchase_ok effect).2.2 row hrow purchase with before | ⟨session, user, credit⟩
      · exact .inl before
      · refine .inr ?_
        have passed := inv.passed delivery mem bought stage
        obtain ⟨intent, found, hasUser, hasCredit, reports⟩ := corroborate_ok passed
        obtain ⟨hintent, hsession⟩ := checkoutIntent_eq_some.mp found
        rw [← hsession] at session reports
        refine ⟨intent, hintent, session, user.trans hasUser, credit.trans hasCredit, ?_⟩
        exact ⟨delivery.event, inv.delivered delivery mem, reports⟩

theorem Inv.step (inv : Inv parser w) (h : Change parser w a w') : Inv parser w' where
  delivered delivery hmem := by
    cases h.deliveries delivery hmem with
    | before mem => exact h.delivered (inv.delivered delivery mem)
    | fresh delivered => exact delivered
    | moved earlier mem event =>
        rw [← event]
        exact h.delivered (inv.delivered earlier mem)
  passed delivery hmem purchase stage := by
    cases h.deliveries delivery hmem with
    | before mem =>
        exact corroborate_kept h.db.quotesKept (inv.passed delivery mem purchase stage)
    | fresh _ received =>
        rw [received] at stage
        cases stage
    | moved earlier mem event passed =>
        obtain ⟨db, passed⟩ := passed purchase stage
        rw [db]
        exact passed
  purchases row hrow purchase := by
    rcases inv.purchase_written h hrow purchase with before | priced
    · exact (inv.purchases row before purchase).kept h
    · exact priced.kept h

/-- A step on behalf of an event that does not pass moves no money. -/
theorem Inv.failed_moves_nothing (inv : Inv parser w) (h : Change parser w a w')
    (about : w.event? a = some event)
    (fails : ∀ purchase,
      corroborate parser w.db.checkoutIntent event.object ≠ .ok (some purchase)) :
    w'.db.users = w.db.users ∧ w'.db.creditLedger = w.db.creditLedger := by
  cases h.db with
  | kept same =>
      rw [same]
      exact ⟨rfl, rfl⟩
  | quotes kept owned users creditLedger => exact ⟨users, creditLedger⟩
  | credited delivery mem hevent purchase stage =>
      have same : delivery.event = event := Option.some.inj (hevent.symm.trans about)
      have passed := inv.passed delivery mem purchase stage
      rw [same] at passed
      exact absurd passed (fails purchase)

end Invariant

/-- Whatever events are delivered, in any order, any number of times and however
    their handlers fail: a session has at most one purchase row; a purchase row is
    for the user and the credit of its session's record, which stood when the row
    was written, and some event reported the money that record expects; and no step
    on behalf of an event that fails a check moves a balance or writes a ledger row. -/
theorem purchases_credited_once {parser : MetadataParser} {w₀ w : World} (opening : w₀.Opening)
    (run : Reaches parser w₀ w) :
    (∀ sessionId, countWhere
      (fun row => row.entryType = .purchase ∧ row.stripeSessionId = some sessionId)
      w.db.creditLedger.rows ≤ 1) ∧
    (∀ row ∈ w.db.creditLedger, row.entryType = .purchase → w.Priced row) ∧
    ∀ a w', step parser w a = some w' →
      (∀ row ∈ w'.db.creditLedger, row.entryType = .purchase →
        row ∈ w.db.creditLedger ∨ w.Priced row) ∧
      ∀ event, w.event? a = some event →
        (∀ purchase,
          corroborate parser w.db.checkoutIntent event.object ≠ .ok (some purchase)) →
        w'.db.users = w.db.users ∧ w'.db.creditLedger = w.db.creditLedger := by
  have inv : Inv parser w :=
    run.invariant (.opening opening) fun _ _ _ inv _ next => inv.step (step_change next)
  refine ⟨?_, inv.purchases, ?_⟩
  · intro sessionId
    refine w.db.creditLedger.countWhere_le_one _ ?_
    rintro a b ⟨-, ha⟩ ⟨-, hb⟩
    refine .inl ⟨?_, ha.trans hb.symm⟩
    rw [ha]
    exact Option.some_ne_none sessionId
  · intro a w' next
    have change := step_change next
    exact ⟨fun _ hrow purchase => inv.purchase_written change hrow purchase,
      fun _ about fails => inv.failed_moves_nothing change about fails⟩

/-! A purchase of $5 delivered twice, its first credit committed unseen, next to an
event that claims $100 of somebody else's for the same money. -/

theorem oneBuyer_checked : ∀ user ∈ [(⟨1, 0, none, none⟩ : User)], usersTable.check user := by
  decide

theorem oneBuyer_distinct :
    [(⟨1, 0, none, none⟩ : User)].Pairwise fun a b => ¬ usersTable.clash a b := by
  decide

def oneBuyer : Table usersTable where
  rows := [{ id := 1, creditBalanceUsd := 0, frozenAt := none, frozenReason := none }]
  checked := oneBuyer_checked
  distinct := oneBuyer_distinct

/-- The parsers, on the fields of the events below. -/
def fieldParser : MetadataParser where
  uuid raw :=
    if raw = "00000000-0000-0000-0000-000000000001" then some 1
    else if raw = "00000000-0000-0000-0000-000000000002" then some 2
    else none
  decimal raw := if raw = "5" then some 5 else if raw = "100" then some 100 else none

def paidEvent (userId creditUsd : String) : StripeEvent where
  eventType := "checkout.session.completed"
  object := .object
    [("id", .string "cs_1"), ("payment_status", .string "paid"),
      ("metadata", .object [("user_id", .string userId), ("credit_usd", .string creditUsd)]),
      ("amount_total", .integer 620), ("currency", .string "USD"),
      ("total_details", .object [("amount_tax", .integer 40)]), ("payment_intent", .string "pi_1")]

def replayedRun : List Action :=
  let sold := paidEvent "00000000-0000-0000-0000-000000000001" "5"
  let forged := paidEvent "00000000-0000-0000-0000-000000000002" "100"
  [.recordCheckoutIntent 0 "cs_1" 1 580 5 "usd", .deliver sold, .deliver sold, .deliver forged,
    .checkoutIntent 2, .checkoutIntent 1, .checkoutIntent 0, .creditPurchase 0 0 .commitUnseen,
    .creditPurchase 0 0 .commit, .settleCheckoutIntent 0 0 .commit]

theorem purchases_credited_once_replayed :
    ∃ w : World, w.db.users.rows.map User.creditBalanceUsd = [5] ∧ w.deliveries.length = 0 ∧
      ∀ row ∈ w.db.creditLedger, row.entryType = .purchase → w.Priced row := by
  have runs : (Transition.runWhile (step fieldParser) Transition.anyStep
      { db := .fresh oneBuyer .empty, clock := 0, deliveries := [], delivered := [], answers := [] }
      replayedRun).any (fun w =>
        w.db.users.rows.map User.creditBalanceUsd = [5] ∧ w.deliveries.length = 0) = true := by
    decide +kernel
  obtain ⟨w, run, hw⟩ := Transition.Steps.exists_of_runWhile runs
  obtain ⟨balance, answered⟩ := of_decide_eq_true hw
  have opening : World.Opening
      { db := .fresh oneBuyer .empty, clock := 0, deliveries := [], delivered := [], answers := [] } :=
    ⟨fun _ hrow => absurd hrow List.not_mem_nil, rfl⟩
  exact ⟨w, balance, answered, (purchases_credited_once opening run).2.1⟩

end ZeroRouter.Checkout
