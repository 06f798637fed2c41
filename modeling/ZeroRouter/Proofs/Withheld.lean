import ZeroRouter.Proofs.Fate
import ZeroRouter.Proofs.Converge

/-!
# What a withheld charge owes

The report of withheld charges adds the tax a row bears to its gross.  A row entered for an
event bears none, so a taxed charge that is withheld from such a row is reported without its
tax.
-/

namespace ZeroRouter.Recharge

open Relational AutopayDb
open Billing (StripeObjects isPending finished frozen renamed Verdict)

variable {stripe : StripeObjects} {bounds : CheckoutBounds} {parser : MetadataParser}
  {creditText : Decimal → String} {provenance : Uuid → String → String} {book : Book}
  {opening w w' : World} {action : Action} {mark : Uuid → Decimal → String}

/-! ## The condition -/

/-- A success settled now would be withheld from a row that bears no tax though the charge had
    one: a row entered for an event, before or by this settlement. -/
def World.Sheds (w : World) (paymentIntentId : String) (userId : Uuid) : Prop :=
  ¬ w.db.autopayStillArmed userId ∧
    (∃ intent ∈ w.intents, intent.id = paymentIntentId ∧ 0 < intent.form.taxCents) ∧
    ((∃ row ∈ w.db.stripeAutopayIntents, isPending paymentIntentId row ∧ row.taxAmountUsd = none) ∨
      Billing.Free w.db.stripeAutopayIntents paymentIntentId userId)

instance (w : World) (paymentIntentId : String) (userId : Uuid) :
    Decidable (w.Sheds paymentIntentId userId) :=
  inferInstanceAs (Decidable (_ ∧ (∃ _ ∈ _, _) ∧ ((∃ _ ∈ _, _) ∨ Billing.Free _ _ _)))

/-- The step settles no success that way. -/
def KeepsTax (parser : MetadataParser) (provenance : Uuid → String → String) (w : World)
    (action : Action) : Prop :=
  ∀ settled ∈ w.settles parser provenance action, ¬ w.Sheds settled.1 settled.2.1

instance (w : World) (action : Action) : Decidable (KeepsTax parser provenance w action) :=
  inferInstanceAs (Decidable (∀ _ ∈ _, _))

/-- Each withheld charge is reported at what Stripe received for it. -/
def World.ReportsReceived (w : World) : Prop :=
  ∀ withheld ∈ w.db.withheldAutopayIntents, ∃ intent ∈ w.intents, intent.id = withheld.1 ∧
    intent.status = .succeeded ∧ usdToCents withheld.2.2 = some (some intent.amountReceived)

instance (w : World) : Decidable w.ReportsReceived :=
  inferInstanceAs (Decidable (∀ _ ∈ _, ∃ _ ∈ _, _))

/-! ## Withheld rows -/

/-- A withheld row that bears no tax is of a charge that had none. -/
def Complete (w : World) (row : StripeAutopayIntent) : Prop :=
  row.status = .withheld → row.taxAmountUsd = none →
    w.Made row.paymentIntentId fun intent => intent.form.taxCents = 0

/-- A claim's row is not withheld. -/
theorem Inv.claim_not_withheld (inv : Inv stripe mark book w) {row : StripeAutopayIntent}
    {key : String} (mem : row ∈ w.db.stripeAutopayIntents)
    (id : row.paymentIntentId = localId key) : row.status ≠ .withheld := by
  intro withheld
  obtain ⟨terms, -, bears⟩ := inv.claimRow mem id
  rcases bears.status with h | h <;> rw [withheld] at h <;> cases h

/-- What is withheld by a settlement that keeps the tax is reported whole. -/
theorem complete_settled (inv : Inv stripe mark book w)
    (keeps : KeepsTax parser provenance w action) {now : Timestamp} {paymentIntentId : String}
    {collected : Uuid × Decimal × Decimal} {old : StripeAutopayIntent} {status : AutopayStatus}
    (made : w.settles parser provenance action = some (paymentIntentId, collected))
    (origin : old ∈ w.db.stripeAutopayIntents ∨
      Billing.Free w.db.stripeAutopayIntents paymentIntentId collected.1 ∧
        old = newIntent now paymentIntentId collected.1 collected.2.1 collected.2.2)
    (pending : isPending paymentIntentId old) (verdict : Verdict w.db (some collected) old status) :
    Complete w (finished now status old) := by
  intro withheld untaxed
  obtain ⟨intent, mem, id, agrees, -⟩ := inv.settles made
  refine ⟨intent, mem, id.trans pending.1.symm, ?_⟩
  have disarmed : ¬ w.db.autopayStillArmed old.userId := by
    have status_eq : status = .withheld := withheld
    subst status_eq
    cases verdict with
    | withheld disarmed => exact disarmed
  have user : old.userId = collected.1 := by
    rcases origin with known | ⟨-, rfl⟩
    · have attached := inv.attachedRow known mem (pending.1.trans id.symm)
      rw [← agrees]
      exact congrArg Prod.fst attached.agrees
    · rfl
  have notShed := keeps _ made
  obtain ⟨-, -, -, -, -, -, nonneg, -⟩ := inv.priced mem
  by_contra taxed
  refine notShed ⟨user ▸ disarmed, ⟨intent, mem, id, lt_of_le_of_ne nonneg (Ne.symm taxed)⟩, ?_⟩
  rcases origin with known | ⟨free, -⟩
  · exact .inl ⟨old, known, pending, untaxed⟩
  · exact .inr free

theorem complete_step (inv : Inv stripe mark book w)
    (complete : ∀ row ∈ w.db.stripeAutopayIntents, Complete w row)
    (keeps : KeepsTax parser provenance w action)
    (h : step stripe bounds parser creditText provenance w action = some w') :
    ∀ row ∈ w'.db.stripeAutopayIntents, Complete w' row := by
  have later : ∀ row : StripeAutopayIntent, Complete w row → Complete w' row := by
    intro row known withheld untaxed
    refine (known withheld untaxed).later (grown_step h) fun intent intent' later same => ?_
    rw [later.form]
    exact same
  intro row mem
  cases rowFrom_step h mem with
  | kept mem => exact later row (complete row mem)
  | claimed _ _ row_eq =>
      rw [row_eq]
      exact nofun
  | recorded _ _ row_eq =>
      rw [row_eq]
      exact nofun
  | attached _ _ mem id _ row_eq =>
      rw [row_eq]
      exact fun withheld => (inv.claim_not_withheld mem id withheld).elim
  | @priced _ _ _ _ old _ pending row_eq =>
      rw [row_eq]
      intro withheld
      have moved : old.status = .withheld := withheld
      rw [pending.2] at moved
      cases moved
  | failed _ _ _ _ row_eq =>
      rw [row_eq]
      exact nofun
  | settled made origin finishes =>
      rcases finishes with rfl | ⟨pending, status, verdict, rfl⟩
      · rcases origin with known | ⟨-, rfl⟩
        · exact later row (complete row known)
        · exact nofun
      · exact later _ (complete_settled inv keeps made origin pending verdict)

/-! ## The report -/

/-- What a row that bears its intent's charge adds up to. -/
theorem Inv.reportsReceived (inv : Inv stripe mark book w)
    (complete : ∀ row ∈ w.db.stripeAutopayIntents, Complete w row) : w.ReportsReceived := by
  intro report hreport
  obtain ⟨row, hrow, rfl⟩ := List.mem_map.mp hreport
  obtain ⟨mem, withheld⟩ := List.mem_filter.mp hrow
  have withheld : row.status = .withheld := of_decide_eq_true withheld
  rcases inv.rows row mem with ⟨key, terms, id, -, -⟩ | ⟨intent, hintent, id, attached⟩
  · exact absurd withheld (inv.claim_not_withheld mem id)
  have succeeded := attached.collected (.inr withheld)
  refine ⟨intent, hintent, id, succeeded, ?_⟩
  obtain ⟨quote, grossCents, -, -, gross, amount, -, low, high⟩ := inv.priced hintent
  have charge : row.chargeAmountUsd = intent.form.grossUsd :=
    congrArg (fun collected => collected.2.2) attached.agrees
  have tax : row.taxAmountUsd.getD 0 * 100 = intent.form.taxCents := by
    rcases attached.tax with ⟨untaxed, -⟩ | ⟨terms, tax, hterms, htax, taxed, -⟩
    · obtain ⟨other, hother, same, none⟩ := complete row mem withheld untaxed
      rw [inv.unique other hother intent hintent (same.trans id.symm)] at none
      rw [none, untaxed]
      norm_num
    · obtain ⟨quote', cents', tax', -, htax', hform⟩ := inv.chargedTerms hintent hterms
      rw [htax] at htax'
      cases htax'
      rw [taxed]
      exact (usdToCents_eq_some.mp (chargeForm_eq_some hform).2.2.2.1).1
  rw [usdToCents_eq_some, PaymentIntent.amountReceived, if_pos succeeded]
  refine ⟨?_, low, high⟩
  rw [charge, add_mul, (usdToCents_eq_some.mp gross).1, tax, amount]
  push_cast
  rfl

/-- In every run that withholds no taxed charge from a row entered for an event, the report of
    withheld charges is what Stripe received for them. -/
theorem withheld_reports_received (fresh : opening.Opening)
    (run : Reaches stripe bounds parser creditText provenance (KeepsTax parser provenance)
      opening w) :
    w.ReportsReceived := by
  obtain ⟨book, inv, complete⟩ : ∃ book, Inv stripe (markOf creditText provenance) book w ∧
      ∀ row ∈ w.db.stripeAutopayIntents, Complete w row := by
    induction run with
    | refl =>
        refine ⟨_, fresh.inv, fun row mem => ?_⟩
        rw [Table.mem_def, fresh.rows] at mem
        cases mem
    | tail _ keeps next ih =>
        obtain ⟨book, inv, complete⟩ := ih
        obtain ⟨book', -, inv'⟩ := inv.step next
        exact ⟨book', inv', complete_step inv complete keeps next⟩
  exact inv.reportsReceived complete

/-! ## One taxed charge -/

/-- One user, armed: ten dollars whenever the balance is below ten. -/
def oneArmed : Table autopaySettingsTable where
  rows :=
    [{ userId := 1, stripeCustomerId := some "cus_1", autopayEnabled := true,
       autopayThresholdUsd := some 10, autopayTopupUsd := some 10,
       autopayConsecutiveFailures := 0 }]
  checked := by decide
  distinct := by decide

def armed : World where
  billing := { Billing.untouched with
    db := { Billing.untouched.db with autopaySettings := oneArmed } }
  intents := []
  tasks := []

theorem armed_opening : armed.Opening := ⟨rfl, rfl, rfl⟩

/-- Stripe's ids of our intents. -/
def ourIntents : StripeObjects where
  object id := if id = "pi_1" ∨ id = "pi_2" then .paymentIntent none else .other
  notLocal idempotencyKey := by
    have apart : ∀ id : String, id.toList.head? ≠ some 'l' →
        AutopayDb.localId idempotencyKey ≠ id := by
      rintro _ head rfl
      exact head (by simp [AutopayDb.localId])
    simp [apart "pi_1" (by decide), apart "pi_2" (by decide)]

def tenParser : MetadataParser where
  uuid text := if text = "1" then some 1 else none
  decimal text := if text = "10" then some 10 else none

def tenText (_ : Decimal) : String := "10"

def oneMark (_ : Uuid) (_ : String) : String := "mark"

/-- The event of a ten-dollar charge of user 1 that succeeded. -/
def chargeSucceeded (paymentIntentId taxCents : String) (amountReceived : Int) : StripeEvent where
  eventType := "payment_intent.succeeded"
  object := .object
    [("id", .string paymentIntentId), ("amount_received", .integer amountReceived),
      ("currency", .string "usd"),
      ("metadata", .object
        [("purpose", .string autopayPurpose), ("user_id", .string "1"),
          ("credit_usd", .string "10"), ("provenance", .string "mark"),
          ("tax_cents", .string taxCents)])]

/-- The sweep charges the first time, up to what Stripe answers. -/
def charges (calculation : TaxCalculation) (made : String × IntentStatus) (reply : Reply) :
    List Action :=
  [.sweep 1 10, .claim 0 0 "key", .replay 0, .list 0 (some (some "pm_1")), .readTax 0,
    .freezeTax 0 0 (some calculation), .guard 0, .post 0 (some made) reply]

def oneDollarTax : TaxCalculation where
  id := some "taxcalc_1"
  taxAmountExclusive := some 100
  taxAmountInclusive := some 0

/-- The answer to a taxed charge is lost; half an hour later the replay finds no saved card
    and fails the claim; the user opts out, and then the success arrives. -/
def lostThenWithheld : List Action :=
  charges oneDollarTax ("pi_1", .processing) .lost ++
    [.progress "pi_1" .succeeded, .reconcile (31 * minute) "local_key", .rearm 0, .replay 0,
      .list 0 none, .fail 0 (31 * minute), .billing (.disarmAutopay 1),
      .deliver (32 * minute) (chargeSucceeded "pi_1" "100" 1180)]

/-- A run withholds a charge of 11.80 and reports 10.80. -/
theorem withheld_without_tax :
    ¬ ∀ w, Reaches ourIntents Billing.fiveToTen tenParser tenText oneMark Transition.anyStep
        armed w → w.ReportsReceived := by
  have runs : (Transition.runWhile (step ourIntents Billing.fiveToTen tenParser tenText oneMark)
      Transition.anyStep armed lostThenWithheld).any (fun w => ¬ w.ReportsReceived) = true := by
    decide +kernel
  obtain ⟨w, run, short⟩ := Transition.Steps.exists_of_runWhile runs
  exact fun claim => of_decide_eq_true short (claim w run)

/-- The same charge, attached before the user opts out, is withheld and reported whole. -/
def attachedThenWithheld : List Action :=
  charges oneDollarTax ("pi_1", .processing) (.accepted "pi_1" false) ++
    [.attach 0 0, .progress "pi_1" .succeeded, .billing (.disarmAutopay 1),
      .deliver (32 * minute) (chargeSucceeded "pi_1" "100" 1180)]

theorem withheld_reports_received_attached :
    ∃ w : World, w.db.withheldAutopayIntents ≠ [] ∧ w.ReportsReceived := by
  have runs : (Transition.runWhile (step ourIntents Billing.fiveToTen tenParser tenText oneMark)
      (KeepsTax tenParser oneMark) armed attachedThenWithheld).any
        (fun w => w.db.withheldAutopayIntents ≠ []) = true := by
    decide +kernel
  obtain ⟨w, run, withheld⟩ := Transition.Steps.exists_of_runWhile runs
  exact ⟨w, of_decide_eq_true withheld, withheld_reports_received armed_opening run⟩

end ZeroRouter.Recharge
