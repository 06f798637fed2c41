import ZeroRouter.Stripe.Sweep
import ZeroRouter.Proofs.Purchase

/-!
# Sweeping abandoned checkouts

Neither the delete nor its trigger sees a credit that is about to be made: a delivery that has
read a record credits it whether or not the record is still there.  Where no pass and no such
delivery are under way together, a pass erases no purchase and leaves none of its batch behind.
-/

namespace ZeroRouter.Cleanup

open List Relational
open ZeroRouter.Checkout (QuotesKept checkoutIntent_eq_some)

variable {sessionId : String} {row : StripeCheckoutIntent} {n : Nat} {event : StripeEvent}
  {pass : Pass} {db : Db} {now : Timestamp} {deleting : Deleting}

/-! ## The condition -/

/-- The delivery has read the session's record and not credited it. -/
def Reads (sessionId : String) : Checkout.Stage → Prop
  | .corroborated purchase => purchase.sessionId = sessionId
  | _ => False

instance (sessionId : String) (stage : Checkout.Stage) : Decidable (Reads sessionId stage) :=
  match stage with
  | .corroborated purchase => inferInstanceAs (Decidable (purchase.sessionId = sessionId))
  | .received | .credited _ => .isFalse fun h => h

/-- Some delivery has. -/
def World.Reading (w : World) (sessionId : String) : Prop :=
  ∃ delivery ∈ w.purchases.deliveries, Reads sessionId delivery.stage

instance (w : World) (sessionId : String) : Decidable (w.Reading sessionId) :=
  inferInstanceAs (Decidable (∃ delivery ∈ w.purchases.deliveries, _))

/-- The rows of a pass under way, deleted or not. -/
def World.batch (w : World) : List StripeCheckoutIntent :=
  match w.pass with
  | some { deleting := some deleting, .. } => deleting.remaining ++ deleting.removed
  | _ => []

/-- The record a delivery would go on with if it looked now. -/
def World.wouldRead (w : World) (parser : MetadataParser) (n : Nat) : Option String :=
  match w.purchases.deliveries[n]? with
  | some { event, stage := .received } =>
      match corroborate parser w.purchases.db.checkoutIntent event.object with
      | .ok (some purchase) => some purchase.sessionId
      | _ => none
  | _ => none

/-- A pass does not start on a record that a delivery has read and not credited, and a delivery
    does not read a record of a pass under way. -/
def Apart (parser : MetadataParser) (w : World) : Action → Prop
  | .scan _ => ∀ pass ∈ w.pass,
      ∀ row ∈ expired w.purchases.db pass.now pass.retentionDays, ¬ w.Reading row.stripeSessionId
  | .purchases (.checkoutIntent n) =>
      ∀ sessionId ∈ w.wouldRead parser n, ∀ row ∈ w.batch, row.stripeSessionId ≠ sessionId
  | _ => True

instance (parser : MetadataParser) (w : World) (action : Action) :
    Decidable (Apart parser w action) :=
  match action with
  | .scan _ => inferInstanceAs (Decidable (∀ pass ∈ w.pass, _))
  | .purchases (.checkoutIntent n) =>
      inferInstanceAs (Decidable (∀ sessionId ∈ w.wouldRead parser n, _))
  | .purchases (.tick _) | .purchases (.recordCheckoutIntent ..) | .purchases (.deliver _)
  | .purchases (.creditPurchase ..) | .purchases (.settleCheckoutIntent ..)
  | .purchases (.unreadable _) | .purchases (.crash _) | .sweep .. | .delete _ | .commit
  | .fail => .isTrue trivial

/-! ## What the purchase system does -/

/-- The session was bought. -/
def Bought (db : Db) (stripeSessionId : String) : Prop :=
  ∃ row ∈ db.creditLedger, row.entryType = .purchase ∧ row.stripeSessionId = some stripeSessionId

instance (db : Db) (stripeSessionId : String) : Decidable (Bought db stripeSessionId) :=
  inferInstanceAs (Decidable (∃ row ∈ db.creditLedger, _))

theorem Bought.credited (h : Bought db sessionId) :
    IsCredited db sessionId := by
  obtain ⟨row, hrow, -, same⟩ := h
  exact ⟨row, hrow, same⟩

/-- The ledger is only added to. -/
def LedgerKept (db db' : Db) : Prop := ∀ row ∈ db.creditLedger, row ∈ db'.creditLedger

section Ledger

variable {db db' : Db} {now : Timestamp} {userId : Uuid} {paymentIntentId sessionId : String}
  {amountUsd : Decimal} {paymentIntent : Option String} {outcome : CreditOutcome}

theorem LedgerKept.of_eq (same : db'.creditLedger = db.creditLedger) : LedgerKept db db' := by
  intro row hrow
  rwa [same]

theorem LedgerKept.trans {db'' : Db} (first : LedgerKept db db') (second : LedgerKept db' db'') :
    LedgerKept db db'' := fun row hrow => second row (first row hrow)

theorem moveBalance_ledgerKept {creditReversal : Bool} {missing : SqlError} {delta : Decimal}
    {entry : Decimal → CreditLedger}
    (h : db.moveBalance userId creditReversal missing delta entry = .ok db') :
    LedgerKept db db' := by
  obtain ⟨user, users, ledger, -, -, -, -, inserted, rfl⟩ := Db.moveBalance_ok h
  exact fun row hrow => (Table.mem_insert inserted).mpr (.inl hrow)

theorem applyObservedReversal_ledgerKept {tombstone : StripeObservedReversal}
    (h : db.applyObservedReversal now userId paymentIntentId amountUsd tombstone = .ok db') :
    LedgerKept db db' := by
  simp only [Db.applyObservedReversal, bind_eq_ok] at h
  obtain ⟨frozen, hfrozen, reversed, hreversed, h⟩ := h
  have freezing : LedgerKept db frozen := by
    split at hfrozen
    · simp only [Db.freezeForDispute, bind_eq_ok] at hfrozen
      obtain ⟨users, -, hfrozen⟩ := hfrozen
      cases hfrozen
      exact .of_eq rfl
    · cases hfrozen
      exact .of_eq rfl
  have reversing : LedgerKept frozen reversed := by
    split at hreversed
    · unfold Db.reverseCredit at hreversed
      split at hreversed
      · cases hreversed
        exact .of_eq rfl
      · exact moveBalance_ledgerKept hreversed
    · cases hreversed
      exact .of_eq rfl
  refine (freezing.trans reversing).trans ?_
  split at h
  · simp only [bind_eq_ok] at h
    obtain ⟨table, -, h⟩ := h
    cases h
    exact .of_eq rfl
  · cases h
    exact .of_eq rfl

/-- A credit adds to the ledger, and afterwards the session is credited. -/
theorem creditPurchase_credited
    (h : db.creditPurchase now userId amountUsd sessionId paymentIntent = .ok (outcome, db')) :
    LedgerKept db db' ∧ IsCredited db' sessionId := by
  simp only [Db.creditPurchase, bind_eq_ok] at h
  obtain ⟨-, -, -, -, h⟩ := h
  split at h
  · next already =>
      cases h
      exact ⟨.of_eq rfl, already⟩
  simp only [bind_eq_ok] at h
  obtain ⟨credited, hcredited, balanceAfter, -, h⟩ := h
  have moved := moveBalance_ledgerKept hcredited
  have bought : IsCredited credited sessionId := by
    obtain ⟨user, users, ledger, -, -, -, -, inserted, rfl⟩ := Db.moveBalance_ok hcredited
    exact ⟨_, (Table.mem_insert inserted).mpr (.inr rfl), rfl⟩
  have met : LedgerKept credited db' := by
    cases paymentIntent with
    | none =>
        cases h
        exact .of_eq rfl
    | some paymentIntentId =>
        simp only [bind_eq_ok] at h
        obtain ⟨reversed, hreversed, h⟩ := h
        cases h
        exact foldlM_relate (fun _ => .of_eq rfl) (fun _ _ _ => .trans)
          (fun _ _ _ => applyObservedReversal_ledgerKept) hreversed
  obtain ⟨row, hrow, same⟩ := bought
  exact ⟨moved.trans met, row, met row hrow, same⟩

/-- It buys at most its own session. -/
theorem creditPurchase_bought {other : String}
    (h : db.creditPurchase now userId amountUsd sessionId paymentIntent = .ok (outcome, db'))
    (bought : Bought db' other) : Bought db other ∨ other = sessionId := by
  obtain ⟨row, hrow, purchase, same⟩ := bought
  rcases (Checkout.creditPurchase_ok h).2.2 row hrow purchase with before | ⟨own, -⟩
  · exact .inl ⟨row, before, purchase, same⟩
  · exact .inr (Option.some.inj (same.symm.trans own))

/-- A settled marker changes the row of its session, and that row only. -/
theorem settleCheckoutIntent_others {settled : Bool}
    (h : db.settleCheckoutIntent now sessionId = .ok (settled, db'))
    (mem : row ∈ db.stripeCheckoutIntents) (other : row.stripeSessionId ≠ sessionId) :
    row ∈ db'.stripeCheckoutIntents := by
  simp only [Db.settleCheckoutIntent, bind_eq_ok, liftViolation_eq_ok] at h
  obtain ⟨table, updated, h⟩ := h
  cases h
  refine (Table.mem_updateWhere updated).mpr ⟨row, mem, ?_⟩
  unfold Table.rewrite
  rw [if_neg fun own => other own.1]

end Ledger

/-- Where a delivery in flight came from. -/
inductive Origin (parser : MetadataParser) (w w' : Checkout.World) (a : Checkout.Action)
    (delivery : Checkout.Delivery) : Prop where
  | before (mem : delivery ∈ w.deliveries)
  | received (stage : delivery.stage = .received)
  /-- It looked at the record. -/
  | read (n : Nat) (purchase : Purchase) (action : a = .checkoutIntent n)
      (found : w.deliveries[n]? = some { delivery with stage := .received })
      (stage : delivery.stage = .corroborated purchase)
      (passed : corroborate parser w.db.checkoutIntent delivery.event.object = .ok (some purchase))
  /-- It credited what it had read. -/
  | credited (earlier : Checkout.Delivery) (mem : earlier ∈ w.deliveries) (sessionId : String)
      (reads : Reads sessionId earlier.stage) (stage : delivery.stage = .credited sessionId)
      (credited : IsCredited w'.db sessionId)

/-- What a step of the purchase system does to the records, to the ledger and to the
    deliveries in flight. -/
structure Change (parser : MetadataParser) (w w' : Checkout.World) (a : Checkout.Action) :
    Prop where
  quotes : QuotesKept w.db w'.db
  rows : ∀ row ∈ w.db.stripeCheckoutIntents, row ∈ w'.db.stripeCheckoutIntents ∨
    ∃ delivery ∈ w.deliveries, delivery.stage = .credited row.stripeSessionId
  ledger : LedgerKept w.db w'.db
  bought : ∀ sessionId, Bought w'.db sessionId → Bought w.db sessionId ∨
    ∃ delivery ∈ w.deliveries, Reads sessionId delivery.stage
  deliveries : ∀ delivery ∈ w'.deliveries, Origin parser w w' a delivery
  clock : w.clock ≤ w'.clock

section Step

variable {parser : MetadataParser} {w w' : Checkout.World} {a : Checkout.Action} {fate : Fate}

/-- A step that leaves the database alone. -/
theorem Change.of_same (db : w'.db = w.db)
    (deliveries : ∀ delivery ∈ w'.deliveries, Origin parser w w' a delivery)
    (clock : w.clock ≤ w'.clock) : Change parser w w' a where
  quotes := .of_eq (by rw [db])
  rows row hrow := by
    rw [db]
    exact .inl hrow
  ledger := .of_eq (by rw [db])
  bought sessionId h := by
    rw [db] at h
    exact .inl h
  deliveries := deliveries
  clock := clock

/-- The deliveries an answer leaves are the others. -/
theorem origin_of_answer {v : Checkout.World} {response : Except WebhookFailure Unit}
    (deliveries : v.deliveries = w.deliveries) :
    ∀ delivery ∈ (v.answer n event response).deliveries,
      Origin parser w (v.answer n event response) a delivery := by
  intro delivery h
  refine .before ?_
  rw [← deliveries]
  exact Checkout.mem_of_mem_eraseIdx h

theorem Change.of_checkoutIntent (found : w.deliveries[n]? = some { event, stage := .received }) :
    Change parser w (w.runCheckoutIntent parser n event) (.checkoutIntent n) := by
  unfold Checkout.World.runCheckoutIntent
  split
  · exact .of_same rfl (origin_of_answer rfl) le_rfl
  · exact .of_same rfl (origin_of_answer rfl) le_rfl
  · next purchase passed =>
      refine .of_same rfl (fun delivery h => ?_) le_rfl
      rcases Checkout.mem_advance h with before | rfl
      · exact .before before
      · exact .read n purchase rfl found rfl passed

theorem Change.of_creditPurchase {purchase : Purchase}
    (mem : (⟨event, .corroborated purchase⟩ : Checkout.Delivery) ∈ w.deliveries) :
    Change parser w (w.runCreditPurchase n event purchase now fate) a := by
  unfold Checkout.World.runCreditPurchase
  split
  · exact .of_same rfl (origin_of_answer rfl) le_rfl
  · next outcome db effect =>
      obtain ⟨ledger, credited⟩ := creditPurchase_credited effect
      have intents := (Checkout.creditPurchase_ok effect).1
      have bought : ∀ sessionId, Bought db sessionId → Bought w.db sessionId ∨
          ∃ delivery ∈ w.deliveries, Reads sessionId delivery.stage := by
        intro sessionId h
        rcases creditPurchase_bought effect h with before | rfl
        · exact .inl before
        · exact .inr ⟨_, mem, rfl⟩
      have rows : ∀ row ∈ w.db.stripeCheckoutIntents, row ∈ db.stripeCheckoutIntents ∨
          ∃ delivery ∈ w.deliveries, delivery.stage = .credited row.stripeSessionId := by
        intro row hrow
        rw [intents]
        exact .inl hrow
      cases fate with
      | commit =>
          refine ⟨.of_eq intents, rows, ledger, bought, fun delivery h => ?_, le_rfl⟩
          rcases mem_or_eq_of_mem_set h with before | rfl
          · exact .before before
          · exact .credited _ mem purchase.sessionId rfl rfl credited
      | commitUnseen =>
          exact ⟨.of_eq intents, rows, ledger, bought, origin_of_answer rfl, le_rfl⟩
      | rollback => exact .of_same rfl (origin_of_answer rfl) le_rfl

theorem Change.of_settleCheckoutIntent
    (mem : (⟨event, .credited sessionId⟩ : Checkout.Delivery) ∈ w.deliveries) :
    Change parser w (w.runSettleCheckoutIntent n event sessionId now fate) a := by
  unfold Checkout.World.runSettleCheckoutIntent
  simp only
  split
  · cases stamped : w.db.settleCheckoutIntent now sessionId with
    | error e => exact .of_same rfl (origin_of_answer rfl) le_rfl
    | ok result =>
        obtain ⟨settled, db⟩ := result
        obtain ⟨quotes, -, -, creditLedger⟩ := Checkout.settleCheckoutIntent_ok stamped
        refine ⟨quotes, fun row hrow => ?_, .of_eq creditLedger, fun other h => ?_,
          origin_of_answer rfl, le_rfl⟩
        · by_cases own : row.stripeSessionId = sessionId
          · exact .inr ⟨_, mem, by rw [own]⟩
          · exact .inl (settleCheckoutIntent_others stamped hrow own)
        · obtain ⟨row, hrow, same⟩ := h
          have before : row ∈ w.db.creditLedger := by
            rw [← creditLedger]
            exact hrow
          exact .inl ⟨row, before, same⟩
  · exact .of_same rfl (origin_of_answer rfl) le_rfl

theorem step_change (h : Checkout.step parser w a = some w') : Change parser w w' a := by
  unfold Checkout.step at h
  split at h
  case isFalse => cases h
  cases a with
  | tick clock =>
      simp only at h
      split at h
      · next later =>
          cases h
          exact .of_same rfl (fun _ hd => .before hd) later
      · cases h
  | recordCheckoutIntent now stripeSessionId userId expectedAmountCents expectedCreditUsd currency =>
      cases h
      unfold Checkout.World.run
      split
      · next db recorded =>
          obtain ⟨quotes, -, -, creditLedger⟩ := Checkout.recordCheckoutIntent_ok recorded
          refine ⟨quotes, fun row hrow => .inl ?_, .of_eq creditLedger, fun other h => .inl ?_,
            fun _ hd => .before hd, le_rfl⟩
          · simp only [Db.recordCheckoutIntent, bind_eq_ok, liftViolation_eq_ok] at recorded
            obtain ⟨table, inserted, -, -, recorded⟩ := recorded
            cases recorded
            exact (Table.mem_insert inserted).mpr (.inl hrow)
          · obtain ⟨row, hrow, same⟩ := h
            refine ⟨row, ?_, same⟩
            rw [← creditLedger]
            exact hrow
      · exact .of_same rfl (fun _ hd => .before hd) le_rfl
  | deliver event =>
      simp only at h
      split at h
      · cases h
        refine .of_same rfl (fun delivery hd => ?_) le_rfl
        rcases mem_cons.mp hd with rfl | before
        · exact .received rfl
        · exact .before before
      · cases h
        exact .of_same rfl (fun _ hd => .before hd) le_rfl
      · cases h
      · cases h
  | checkoutIntent n =>
      simp only at h
      split at h
      · next event found =>
          cases h
          exact .of_checkoutIntent found
      · cases h
  | creditPurchase n now fate =>
      simp only at h
      split at h
      · next event purchase found =>
          cases h
          exact .of_creditPurchase (mem_of_getElem? found)
      · cases h
  | settleCheckoutIntent n now fate =>
      simp only at h
      split at h
      · next event sessionId found =>
          cases h
          exact .of_settleCheckoutIntent (mem_of_getElem? found)
      · cases h
  | unreadable n =>
      simp only at h
      split at h
      · split at h
        · cases h
          exact .of_same rfl (origin_of_answer rfl) le_rfl
        · cases h
      · cases h
  | crash n =>
      cases h
      exact .of_same rfl (fun _ hd => .before (Checkout.mem_of_mem_eraseIdx hd)) le_rfl

end Step

/-! ## The invariant -/

/-- The session has a purchase record. -/
def OnRecord (db : Db) (sessionId : String) : Prop :=
  ∃ intent ∈ db.stripeCheckoutIntents, intent.stripeSessionId = sessionId

instance (db : Db) (sessionId : String) : Decidable (OnRecord db sessionId) :=
  inferInstanceAs (Decidable (∃ intent ∈ db.stripeCheckoutIntents, _))

theorem OnRecord.kept {db' : Db} (h : OnRecord db sessionId) (quotes : QuotesKept db db') :
    OnRecord db' sessionId := by
  obtain ⟨intent, hintent, rfl⟩ := h
  obtain ⟨new, hnew, same⟩ := quotes intent hintent
  exact ⟨new, hnew, same.stripeSessionId⟩

/-- The delivery has read the session's record, and credited it or not. -/
def On (sessionId : String) (stage : Checkout.Stage) : Prop :=
  Reads sessionId stage ∨ stage = .credited sessionId

/-- A row of a pass under way: still there, and nobody is about to credit or to settle it. -/
structure Held (w : World) (row : StripeCheckoutIntent) : Prop where
  present : row ∈ w.purchases.db.stripeCheckoutIntents
  unsettled : row.settledAt = none
  unbought : ¬ Bought w.purchases.db row.stripeSessionId
  idle : ∀ delivery ∈ w.purchases.deliveries, ¬ On row.stripeSessionId delivery.stage

/-- A `DELETE` under way has its whole batch before it or behind it, and what is behind it is
    seven days old. -/
structure Counted (pass : Pass) (deleting : Deleting) : Prop where
  batch : ∃ batch,
    Oldest (expired deleting.snapshot pass.now pass.retentionDays) pass.limit.toNat batch ∧
      (deleting.remaining ++ deleting.removed).Perm batch
  aged : ∀ row ∈ deleting.removed, row.createdAt ≤ pass.now - 7 * day

structure Inv (w : World) : Prop where
  covered : ∀ sessionId, Bought w.purchases.db sessionId → OnRecord w.purchases.db sessionId
  reading : ∀ sessionId, w.Reading sessionId → OnRecord w.purchases.db sessionId
  credited : ∀ delivery ∈ w.purchases.deliveries, ∀ sessionId,
    delivery.stage = .credited sessionId → IsCredited w.purchases.db sessionId
  held : ∀ row ∈ w.batch, Held w row
  counted : ∀ pass, w.pass = some pass → ∀ deleting, pass.deleting = some deleting →
    Counted pass deleting
  clock : ∀ pass, w.pass = some pass → pass.now ≤ w.purchases.clock

section Invariant

variable {parser : MetadataParser} {w w' : World} {a : Checkout.Action}
  {batch : List StripeCheckoutIntent} {action : Action}

theorem Inv.opening (h : w.Opening) : Inv w where
  covered sessionId bought := by
    obtain ⟨row, hrow, purchase, -⟩ := bought
    exact absurd purchase (h.purchases.creditLedger row hrow)
  reading sessionId reading := by
    obtain ⟨delivery, hdelivery, -⟩ := reading
    rw [h.purchases.deliveries] at hdelivery
    cases hdelivery
  credited delivery hdelivery := by
    rw [h.purchases.deliveries] at hdelivery
    cases hdelivery
  held row hrow := by
    unfold World.batch at hrow
    rw [h.pass] at hrow
    cases hrow
  counted pass hpass := by
    rw [h.pass] at hpass
    cases hpass
  clock pass hpass := by
    rw [h.pass] at hpass
    cases hpass

theorem Held.purchases {purchases : Checkout.World} (held : Held w row)
    (change : Change parser w.purchases purchases a)
    (unread : ∀ n, a = .checkoutIntent n → ∀ sessionId ∈ w.wouldRead parser n,
      row.stripeSessionId ≠ sessionId) :
    Held { w with purchases } row where
  present := by
    rcases change.rows row held.present with kept | ⟨delivery, hdelivery, settling⟩
    · exact kept
    · exact absurd (.inr settling) (held.idle delivery hdelivery)
  unsettled := held.unsettled
  unbought bought := by
    rcases change.bought _ bought with before | ⟨delivery, hdelivery, reads⟩
    · exact held.unbought before
    · exact held.idle delivery hdelivery (.inl reads)
  idle delivery hdelivery on := by
    cases change.deliveries delivery hdelivery with
    | before mem => exact held.idle delivery mem on
    | received stage =>
        rw [stage] at on
        rcases on with reads | settling
        · exact reads
        · cases settling
    | read n purchase action found stage passed =>
        rw [stage] at on
        rcases on with reads | settling
        · refine unread n action purchase.sessionId ?_ reads.symm
          unfold World.wouldRead
          rw [found]
          simp only [passed]
          rfl
        · cases settling
    | credited earlier mem sessionId reads stage =>
        rw [stage] at on
        rcases on with none | settling
        · exact none
        · cases settling
          exact held.idle earlier mem (.inl reads)

theorem Inv.purchasesStep (inv : Inv w) {purchases : Checkout.World}
    (next : Checkout.step parser w.purchases a = some purchases)
    (apart : Apart parser w (.purchases a)) : Inv { w with purchases } := by
  have change := step_change next
  refine ⟨fun sessionId bought => ?_, fun sessionId reading => ?_,
    fun delivery hdelivery sessionId stage => ?_, fun row hrow => ?_, inv.counted,
    fun pass hpass => (inv.clock pass hpass).trans change.clock⟩
  · rcases change.bought sessionId bought with before | reading
    · exact (inv.covered sessionId before).kept change.quotes
    · exact (inv.reading sessionId reading).kept change.quotes
  · obtain ⟨delivery, hdelivery, reads⟩ := reading
    cases change.deliveries delivery hdelivery with
    | before mem => exact (inv.reading sessionId ⟨delivery, mem, reads⟩).kept change.quotes
    | received stage =>
        rw [stage] at reads
        exact absurd reads id
    | read n purchase action found stage passed =>
        rw [stage] at reads
        obtain ⟨intent, stored, -⟩ := corroborate_ok passed
        obtain ⟨hintent, same⟩ := checkoutIntent_eq_some.mp stored
        have noted : OnRecord w.purchases.db sessionId := ⟨intent, hintent, same.trans reads⟩
        exact noted.kept change.quotes
    | credited earlier mem other earlierReads stage =>
        rw [stage] at reads
        exact absurd reads id
  · cases change.deliveries delivery hdelivery with
    | before mem =>
        obtain ⟨row, hrow, same⟩ := inv.credited delivery mem sessionId stage
        exact ⟨row, change.ledger row hrow, same⟩
    | received received =>
        rw [received] at stage
        cases stage
    | read n purchase action found read =>
        rw [read] at stage
        cases stage
    | credited earlier mem other reads own credited =>
        rw [own] at stage
        cases stage
        exact credited
  · refine (inv.held row hrow).purchases change ?_
    rintro n rfl sessionId would
    exact apart sessionId would row hrow

theorem Inv.scan (inv : Inv w) (hpass : w.pass = some pass)
    (oldest : Oldest (expired w.purchases.db pass.now pass.retentionDays) pass.limit.toNat batch)
    (apart : Apart parser w (.scan batch)) :
    Inv { w with
      pass := some
        { pass with
          deleting := some { snapshot := w.purchases.db, remaining := batch, removed := [] } } } where
  covered := inv.covered
  reading := inv.reading
  credited := inv.credited
  held row hrow := by
    have mem : row ∈ batch := by simpa [World.batch] using hrow
    obtain ⟨present, old⟩ := mem_filter.mp (oldest.chosen row mem)
    have found : Expired w.purchases.db pass.now pass.retentionDays row := of_decide_eq_true old
    refine ⟨present, found.unsettled, fun bought => found.uncredited bought.credited,
      fun delivery hdelivery on => ?_⟩
    rcases on with reads | settling
    · exact apart pass hpass row (oldest.chosen row mem) ⟨delivery, hdelivery, reads⟩
    · exact found.uncredited (inv.credited delivery hdelivery _ settling)
  counted other hother deleting hdeleting := by
    cases hother
    cases hdeleting
    exact ⟨⟨batch, oldest, by simp⟩, by simp⟩
  clock other hother := by
    cases hother
    exact inv.clock pass hpass

theorem Inv.idle (inv : Inv w) {pass : Option Pass} (quiet : ∀ p, pass = some p →
      p.deleting = none ∧ p.now ≤ w.purchases.clock)
    {answers : List (Except SqlError (Option CheckoutIntentSweep))} :
    Inv { w with pass, answers } where
  covered := inv.covered
  reading := inv.reading
  credited := inv.credited
  held row hrow := by
    unfold World.batch at hrow
    split at hrow
    · next deleting hpass =>
        have none := (quiet _ hpass).1
        cases none
    · cases hrow
  counted p hp deleting hdeleting := by
    rw [(quiet p hp).1] at hdeleting
    cases hdeleting
  clock p hp := (quiet p hp).2

/-- Every candidate a pass comes to is as it found it: it is deleted, or the pass fails because
    the row is younger than seven days. -/
theorem runDelete_eq (inv : Inv w) (hpass : w.pass = some pass)
    (hdeleting : pass.deleting = some deleting) (mem : row ∈ deleting.remaining) :
    (∃ error, w.runDelete pass deleting row = w.abort error) ∨
      (row.createdAt ≤ pass.now - 7 * day ∧ w.runDelete pass deleting row =
        { w with
          pass := some
            { pass with
              deleting := some
                { deleting with
                  remaining := deleting.remaining.erase row
                  removed := row :: deleting.removed } } }) := by
  have inBatch : row ∈ w.batch := by
    unfold World.batch
    rw [hpass]
    obtain ⟨now, retentionDays, limit, under⟩ := pass
    cases hdeleting
    exact mem_append_left _ mem
  have held := inv.held row inBatch
  have found : w.purchases.db.checkoutIntent row.stripeSessionId = some row :=
    checkoutIntent_eq_some.mpr ⟨held.present, rfl⟩
  unfold World.runDelete
  simp only [found, held.unsettled, ne_eq, not_true, if_false]
  split
  · next error _ => exact .inl ⟨error, rfl⟩
  · next passed =>
      refine .inr ⟨?_, rfl⟩
      unfold rejectStripeCheckoutIntentDelete at passed
      split at passed
      · cases passed
      split at passed
      · cases passed
      split at passed
      · cases passed
      · next old => exact not_lt.mp old

theorem Inv.delete (inv : Inv w) (hpass : w.pass = some pass)
    (hdeleting : pass.deleting = some deleting) (mem : row ∈ deleting.remaining) :
    Inv (w.runDelete pass deleting row) := by
  rcases runDelete_eq inv hpass hdeleting mem with ⟨error, failed⟩ | ⟨aged, deleted⟩
  · rw [failed]
    exact inv.idle fun p none => by cases none
  · rw [deleted]
    have moved : (deleting.remaining.erase row ++ row :: deleting.removed).Perm
        (deleting.remaining ++ deleting.removed) :=
      perm_middle.trans ((perm_cons_erase mem).symm.append_right _)
    have counted := inv.counted pass hpass deleting hdeleting
    refine ⟨inv.covered, inv.reading, inv.credited, fun other hother => ?_,
      fun p hp under hunder => ?_, fun p hp => ?_⟩
    · have before : other ∈ w.batch := by
        unfold World.batch
        rw [hpass]
        obtain ⟨now, retentionDays, limit, under⟩ := pass
        cases hdeleting
        exact moved.mem_iff.mp hother
      obtain ⟨present, unsettled, unbought, idle⟩ := inv.held other before
      exact ⟨present, unsettled, unbought, idle⟩
    · cases hp
      cases hunder
      obtain ⟨batch, oldest, perm⟩ := counted.batch
      refine ⟨⟨batch, oldest, moved.trans perm⟩, fun other hother => ?_⟩
      rcases mem_cons.mp hother with rfl | before
      · exact aged
      · exact counted.aged other before
    · cases hp
      exact inv.clock pass hpass

/-- A record that is not of the batch outlives the pass. -/
theorem onRecord_runCommit {removed : List StripeCheckoutIntent}
    (h : OnRecord w.purchases.db sessionId)
    (spared : ∀ gone ∈ removed, gone.stripeSessionId ≠ sessionId) :
    OnRecord (w.runCommit removed).purchases.db sessionId := by
  obtain ⟨intent, hintent, rfl⟩ := h
  refine ⟨intent, Table.mem_deleteWhere.mpr ⟨hintent, ?_⟩, rfl⟩
  rintro ⟨gone, hgone, same⟩
  exact spared gone hgone same

theorem Inv.commit (inv : Inv w) (hpass : w.pass = some pass)
    (hdeleting : pass.deleting = some deleting) : Inv (w.runCommit deleting.removed) := by
  have held : ∀ gone ∈ deleting.removed, Held w gone := by
    intro gone hgone
    apply inv.held
    unfold World.batch
    rw [hpass]
    obtain ⟨now, retentionDays, limit, under⟩ := pass
    cases hdeleting
    exact mem_append_right _ hgone
  refine ⟨fun sessionId bought => ?_, fun sessionId reading => ?_, inv.credited,
    fun row none => ?_, fun p none => ?_, fun p none => ?_⟩
  · refine onRecord_runCommit (inv.covered sessionId bought) ?_
    rintro gone hgone rfl
    exact (held gone hgone).unbought bought
  · refine onRecord_runCommit (inv.reading sessionId reading) ?_
    rintro gone hgone rfl
    obtain ⟨delivery, hdelivery, reads⟩ := reading
    exact (held gone hgone).idle delivery hdelivery (.inl reads)
  · cases none
  · cases none
  · cases none

theorem Inv.step (inv : Inv w) (apart : Apart parser w action)
    (next : step parser w action = some w') : Inv w' := by
  unfold Cleanup.step at next
  cases action with
  | purchases a =>
      simp only at next
      split at next
      · cases next
      · obtain ⟨purchases, hpurchases, rfl⟩ := Option.map_eq_some_iff.mp next
        exact inv.purchasesStep hpurchases apart
  | sweep now retentionDays limit =>
      simp only at next
      split at next
      · next started =>
          split at next
          · cases next
            refine ⟨inv.covered, inv.reading, inv.credited, fun row hrow => ?_, inv.counted,
              inv.clock⟩
            obtain ⟨present, unsettled, unbought, idle⟩ := inv.held row hrow
            exact ⟨present, unsettled, unbought, idle⟩
          · cases next
            refine inv.idle fun p hp => ?_
            cases hp
            exact ⟨rfl, started⟩
      · cases next
  | scan batch =>
      simp only at next
      split at next
      · next pass hpass =>
          split at next
          · next ready =>
              cases next
              exact inv.scan hpass ready.2.2 apart
          · cases next
      · cases next
  | delete stripeSessionId =>
      simp only at next
      split at next
      · next pass hpass =>
          split at next
          · next deleting hdeleting =>
              obtain ⟨row, found, rfl⟩ := Option.map_eq_some_iff.mp next
              exact inv.delete hpass hdeleting (mem_of_find?_eq_some found)
          · cases next
      · cases next
  | commit =>
      simp only at next
      split at next
      · next removed hpass =>
          cases next
          exact inv.commit hpass rfl
      · cases next
  | fail =>
      simp only at next
      split at next
      · cases next
        exact inv.idle fun p none => by cases none
      · cases next

/-! ## What a pass deletes -/

/-- The rows a pass may delete at last: its predicate's, seven days old. -/
def deletable (db : Db) (now : Timestamp) (retentionDays : Int) : List StripeCheckoutIntent :=
  (expired db now retentionDays).filter fun row => row.createdAt ≤ now - 7 * day

/-- A row that is gone after a step was deleted by a pass: it was neither settled nor bought,
    and is seven days old. -/
theorem Inv.deleted (inv : Inv w) (next : Cleanup.step parser w action = some w')
    {intent : StripeCheckoutIntent} (mem : intent ∈ w.purchases.db.stripeCheckoutIntents)
    (gone : ¬ OnRecord w'.purchases.db intent.stripeSessionId) :
    intent.settledAt = none ∧ ¬ Bought w.purchases.db intent.stripeSessionId ∧
      intent.createdAt ≤ w.purchases.clock - 7 * day := by
  have onRecord : OnRecord w.purchases.db intent.stripeSessionId := ⟨intent, mem, rfl⟩
  have stays : w'.purchases.db = w.purchases.db → False := by
    intro same
    rw [same] at gone
    exact gone onRecord
  unfold Cleanup.step at next
  cases action with
  | purchases a =>
      simp only at next
      split at next
      · cases next
      · obtain ⟨purchases, hpurchases, rfl⟩ := Option.map_eq_some_iff.mp next
        have change : Change parser w.purchases purchases a := step_change hpurchases
        exact absurd (onRecord.kept change.quotes) gone
  | sweep now retentionDays limit =>
      simp only at next
      split at next
      · split at next <;> cases next <;> exact absurd rfl stays
      · cases next
  | scan batch =>
      simp only at next
      split at next
      · split at next <;> cases next
        exact absurd rfl stays
      · cases next
  | delete stripeSessionId =>
      simp only at next
      split at next
      · next pass hpass =>
          split at next
          · next deleting hdeleting =>
              obtain ⟨row, found, rfl⟩ := Option.map_eq_some_iff.mp next
              rcases runDelete_eq inv hpass hdeleting (mem_of_find?_eq_some found) with
                ⟨error, failed⟩ | ⟨-, deleted⟩
              · rw [failed] at stays
                exact absurd rfl stays
              · rw [deleted] at stays
                exact absurd rfl stays
          · cases next
      · cases next
  | commit =>
      simp only at next
      split at next
      · next now retentionDays limit snapshot removed hpass =>
          cases next
          by_cases spared : ∀ row ∈ removed, row.stripeSessionId ≠ intent.stripeSessionId
          · exact absurd (onRecord_runCommit onRecord spared) gone
          · push Not at spared
            obtain ⟨row, hrow, same⟩ := spared
            have held : Held w row := by
              apply inv.held
              unfold World.batch
              rw [hpass]
              exact hrow
            obtain rfl : row = intent := Table.eq_of_clash held.present mem same
            have aged := (inv.counted _ hpass _ rfl).aged row hrow
            have begun := inv.clock _ hpass
            exact ⟨held.unsettled, held.unbought, aged.trans (Int.sub_le_sub_right begun _)⟩
      · cases next
  | fail =>
      simp only at next
      split at next
      · cases next
        exact absurd rfl stays
      · cases next

/-- A batch of which every row may be deleted is as many of those as the limit lets it be. -/
theorem Oldest.length_deletable {retentionDays : Int} {limit : Nat}
    (oldest : Oldest (expired db now retentionDays) limit batch)
    (aged : ∀ row ∈ batch, row.createdAt ≤ now - 7 * day) :
    batch.length = min limit (deletable db now retentionDays).length := by
  have inside : batch ⊆ deletable db now retentionDays := by
    intro row hrow
    exact mem_filter.mpr ⟨oldest.chosen row hrow, decide_eq_true (aged row hrow)⟩
  have few : batch.length ≤ (deletable db now retentionDays).length :=
    (subperm_of_subset oldest.distinct inside).length_le
  have fewer : (deletable db now retentionDays).length ≤ (expired db now retentionDays).length :=
    length_filter_le _ _
  have many := oldest.many
  omega

/-- A pass that commits has deleted as many rows as its limit let it of those it could. -/
theorem Inv.committed (inv : Inv w) (next : Cleanup.step parser w .commit = some w') :
    ∃ pass deleting sweep, w.pass = some pass ∧ pass.deleting = some deleting ∧
      w'.answers = .ok (some sweep) :: w.answers ∧
      sweep.removed = min pass.limit.toNat
        (deletable deleting.snapshot pass.now pass.retentionDays).length := by
  simp only [Cleanup.step] at next
  split at next
  · next now retentionDays limit snapshot removed hpass =>
      cases next
      refine ⟨_, _, .of removed, hpass, rfl, rfl, ?_⟩
      obtain ⟨⟨batch, oldest, perm⟩, aged⟩ := inv.counted _ hpass _ rfl
      have whole : removed.Perm batch := perm
      have counted : batch.length = min limit.toNat (deletable snapshot now retentionDays).length :=
        oldest.length_deletable fun row hrow => aged row (whole.mem_iff.mpr hrow)
      show removed.length = _
      rw [whole.length_eq, counted]
  · cases next

end Invariant

/-- Where no pass and no delivery that is about to credit one of its records are ever under way
    together: no purchase is without its record; a row that a step removes was neither settled
    nor bought and is seven days old; and a pass that commits has deleted as many rows as its
    limit let it of all it could delete when it looked. -/
theorem sweep_spares_purchases {parser : MetadataParser} {w₀ w : World} (opening : w₀.Opening)
    (run : Transition.Steps (step parser) (Apart parser) w₀ w) :
    (∀ sessionId, Bought w.purchases.db sessionId → OnRecord w.purchases.db sessionId) ∧
      ∀ action w', step parser w action = some w' →
        (∀ intent ∈ w.purchases.db.stripeCheckoutIntents,
          ¬ OnRecord w'.purchases.db intent.stripeSessionId →
            intent.settledAt = none ∧ ¬ Bought w.purchases.db intent.stripeSessionId ∧
              intent.createdAt ≤ w.purchases.clock - 7 * day) ∧
          (action = .commit → ∃ pass deleting sweep,
            w.pass = some pass ∧ pass.deleting = some deleting ∧
              w'.answers = .ok (some sweep) :: w.answers ∧
              sweep.removed = min pass.limit.toNat
                (deletable deleting.snapshot pass.now pass.retentionDays).length) := by
  have inv : Inv w := run.invariant (.opening opening) fun _ _ _ inv apart next =>
    inv.step apart next
  refine ⟨inv.covered, fun action w' next => ⟨fun intent mem gone => ?_, ?_⟩⟩
  · exact inv.deleted next mem gone
  · rintro rfl
    exact inv.committed next

/-! A $5 session whose event is delivered on the eighth day, and swept between the read of its
record and the credit; and one that was credited in time, but never stamped, next to one that
was abandoned. -/

def fiveParser : MetadataParser where
  uuid text := if text = "1" then some 1 else none
  decimal text := if text = "5" then some 5 else none

/-- The event of a paid $5 session. -/
def paidFive : StripeEvent where
  eventType := "checkout.session.completed"
  object := .object
    [("id", .string "cs_1"), ("payment_status", .string "paid"), ("currency", .string "usd"),
      ("metadata", .object [("user_id", .string "1"), ("credit_usd", .string "5")]),
      ("amount_total", .integer 580)]

def firstIntent (stripeSessionId : String) (createdAt : Timestamp) : StripeCheckoutIntent where
  stripeSessionId
  userId := 1
  createdAt
  expectedAmountCents := 580
  expectedCreditUsd := 5
  currency := "usd"
  settledAt := none

def firstDay : World where
  purchases :=
    { db := .fresh Checkout.oneBuyer .empty
      clock := 0
      deliveries := []
      delivered := []
      answers := [] }
  pass := none
  answers := []

theorem firstDay_opening : firstDay.Opening where
  purchases := ⟨fun _ hrow => absurd hrow not_mem_nil, rfl⟩
  pass := rfl

def lateDelivery : List Action :=
  [.purchases (.recordCheckoutIntent 0 "cs_1" 1 580 5 "usd"), .purchases (.tick (8 * day)),
    .purchases (.deliver paidFive), .purchases (.checkoutIntent 0),
    .sweep (8 * day) 7 500, .scan [firstIntent "cs_1" 0], .delete "cs_1", .commit,
    .purchases (.creditPurchase 0 (8 * day) .commit)]

theorem swept_session_bought :
    ¬ ∀ (parser : MetadataParser) (w₀ w : World), w₀.Opening →
      Transition.Steps (step parser) Transition.anyStep w₀ w →
        ∀ sessionId, Bought w.purchases.db sessionId → OnRecord w.purchases.db sessionId := by
  intro claim
  have runs : (Transition.runWhile (step fiveParser) Transition.anyStep firstDay lateDelivery).any
      (fun w => Bought w.purchases.db "cs_1" ∧ ¬ OnRecord w.purchases.db "cs_1") = true := by
    decide +kernel
  obtain ⟨w, run, hw⟩ := Transition.Steps.exists_of_runWhile runs
  obtain ⟨bought, erased⟩ := of_decide_eq_true hw
  exact erased (claim _ _ _ firstDay_opening run _ bought)

def creditedInTime : List Action :=
  [.purchases (.recordCheckoutIntent 0 "cs_1" 1 580 5 "usd"),
    .purchases (.recordCheckoutIntent 0 "cs_2" 1 580 5 "usd"), .purchases (.deliver paidFive),
    .purchases (.checkoutIntent 0), .purchases (.creditPurchase 0 0 .commit),
    .purchases (.crash 0), .purchases (.tick (8 * day)), .sweep (8 * day) 7 1,
    .scan [firstIntent "cs_2" 0], .delete "cs_2"]

theorem sweep_spares_purchases_in_time :
    ∃ w w', Transition.Steps (step fiveParser) (Apart fiveParser) firstDay w ∧
      step fiveParser w .commit = some w' ∧ Bought w'.purchases.db "cs_1" ∧
      OnRecord w'.purchases.db "cs_1" ∧ ¬ OnRecord w'.purchases.db "cs_2" ∧
      ∃ pass deleting sweep, w.pass = some pass ∧ pass.deleting = some deleting ∧
        w'.answers = .ok (some sweep) :: w.answers ∧
        sweep.removed = min pass.limit.toNat
          (deletable deleting.snapshot pass.now pass.retentionDays).length := by
  have runs : (Transition.runWhile (step fiveParser) (Apart fiveParser) firstDay
      creditedInTime).any (fun w => (step fiveParser w .commit).any fun w' =>
        Bought w'.purchases.db "cs_1" ∧ OnRecord w'.purchases.db "cs_1" ∧
          ¬ OnRecord w'.purchases.db "cs_2") = true := by
    decide +kernel
  obtain ⟨w, run, hw⟩ := Transition.Steps.exists_of_runWhile runs
  obtain ⟨w', next, hw'⟩ := (Option.any_eq_true _ _).mp hw
  obtain ⟨bought, kept, swept⟩ := of_decide_eq_true hw'
  exact ⟨w, w', run, next, bought, kept, swept,
    ((sweep_spares_purchases firstDay_opening run).2 .commit w' next).2 rfl⟩

end ZeroRouter.Cleanup
