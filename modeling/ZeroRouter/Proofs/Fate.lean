import ZeroRouter.Proofs.Recharge

/-!
# Where a row comes from

One inversion of a step: a row it leaves was there, was entered by it, or is a row that was
there, rewritten by the one statement the step ran.
-/

namespace ZeroRouter.Recharge

open Relational AutopayDb World
open Billing (StripeObjects SameIntents isPending finished frozen renamed Verdict)

variable {paymentIntentId customer : String} {collected : Uuid × Decimal × Decimal}
  {mark : Uuid → Decimal → String} {userId : Uuid} {row : StripeAutopayIntent}

/-! ## Settlements -/

/-- The settlement a step makes: the intent, and what was collected of whom. -/
def World.settles (parser : MetadataParser) (provenance : Uuid → String → String) (w : World) :
    Action → Option (String × Uuid × Decimal × Decimal)
  | .deliver _ event =>
      if ∃ intent ∈ w.intents, intent.Reports parser event then
        match readAutopayEvent parser provenance event with
        | .ok (.succeeded paymentIntentId collected) => some (paymentIntentId, collected)
        | _ => none
      else none
  | .settle n _ =>
      match w.tasks[n]? with
      | some (.settling paymentIntentId collected) => some (paymentIntentId, collected)
      | _ => none
  | _ => none

variable {stripe : StripeObjects} {bounds : CheckoutBounds} {parser : MetadataParser}
  {creditText : Decimal → String} {provenance : Uuid → String → String} {book : Book}
  {w w' : World} {action : Action}

/-- What is settled is an intent that succeeded, for what it collected. -/
theorem Inv.settles (inv : Inv stripe mark book w)
    (h : w.settles parser provenance action = some (paymentIntentId, collected)) :
    (Task.settling paymentIntentId collected).Ok mark book w := by
  unfold World.settles at h
  split at h
  next now event =>
    split at h
    next known =>
      obtain ⟨intent, mem, reports⟩ := known
      obtain ⟨quote, -, priced, gross, -⟩ := inv.priced mem
      split at h
      next id found report =>
        cases h
        rcases readAutopayEvent_ok reports priced gross report with
          hit | ⟨hit, -⟩ | ⟨hit, succeeded⟩
        · cases hit
        · cases hit
        · cases hit
          exact ⟨intent, mem, rfl, rfl, succeeded⟩
      · cases h
    · cases h
  next n now =>
    split at h
    next id found task =>
      cases h
      exact inv.ok task
    · cases h
  · cases h

/-! ## Origins -/

/-- Where a row after a step comes from. -/
inductive RowFrom (parser : MetadataParser) (provenance : Uuid → String → String) (w : World)
    (action : Action) (row : StripeAutopayIntent) : Prop where
  | kept (mem : row ∈ w.db.stripeAutopayIntents)
  /-- A claim was made. -/
  | claimed {n : Nat} {now : Timestamp} {key : String} {userId : Uuid} {topupUsd : Decimal}
      {quote : DepositFeeQuote} (made : action = .claim n now key)
      (new : key ∉ w.billing.claimed)
      (row_eq : row = newIntent now (localId key) userId topupUsd quote.grossUsd)
  /-- A charge that failed was recorded. -/
  | recorded {n : Nat} {now : Timestamp} {paymentIntentId : String}
      {collected : Uuid × Decimal × Decimal} (made : action = .record n now)
      (task : w.tasks[n]? = some (.recording paymentIntentId collected))
      (row_eq : row = newIntent now paymentIntentId collected.1 collected.2.1 collected.2.2)
  /-- A claim's row took its intent's id. -/
  | attached {n : Nat} {now : Timestamp} {claim : Claim} {paymentIntentId : String} {next : Next}
      {old : StripeAutopayIntent} (made : action = .attach n now)
      (task : w.tasks[n]? = some (.attaching claim paymentIntentId next))
      (mem : old ∈ w.db.stripeAutopayIntents) (id : old.paymentIntentId = claim.localId)
      (free : ∀ other ∈ w.db.stripeAutopayIntents, other.paymentIntentId ≠ paymentIntentId)
      (row_eq : row = renamed now paymentIntentId old)
  /-- A claim's tax was frozen. -/
  | priced {now : Timestamp} {key : String} {taxUsd : Decimal} {calculationId : Option String}
      {old : StripeAutopayIntent} (mem : old ∈ w.db.stripeAutopayIntents)
      (pending : isPending (localId key) old) (row_eq : row = frozen now taxUsd calculationId old)
  /-- A row was failed. -/
  | failed {n : Nat} {now : Timestamp} {paymentIntentId : String} {old : StripeAutopayIntent}
      (made : action = .fail n now) (task : w.tasks[n]? = some (.failing paymentIntentId))
      (mem : old ∈ w.db.stripeAutopayIntents) (pending : isPending paymentIntentId old)
      (row_eq : row = finished now .failed old)
  /-- A success was settled. -/
  | settled {now : Timestamp} {paymentIntentId : String} {collected : Uuid × Decimal × Decimal}
      {old : StripeAutopayIntent}
      (made : w.settles parser provenance action = some (paymentIntentId, collected))
      (origin : old ∈ w.db.stripeAutopayIntents ∨
        Billing.Free w.db.stripeAutopayIntents paymentIntentId collected.1 ∧
          old = newIntent now paymentIntentId collected.1 collected.2.1 collected.2.2)
      (finishes : row = old ∨ isPending paymentIntentId old ∧
        ∃ status, Verdict w.db (some collected) old status ∧ row = finished now status old)

/-! ## Tasks that only go on -/

/-- Nothing changed but the tasks. -/
structure OnlyTasks (w w' : World) : Prop where
  billing : w'.billing = w.billing
  intents : w'.intents = w.intents

theorem OnlyTasks.rows (h : OnlyTasks w w') :
    w'.db.stripeAutopayIntents = w.db.stripeAutopayIntents := by
  rw [db, db, h.billing]

section OnlyTasks

variable {n : Nat} {claim : Claim}

theorem onlyTasks_runList {card : Option (Option String)} :
    OnlyTasks w (w.runList n claim customer card) := by
  unfold runList
  split
  · exact ⟨rfl, rfl⟩
  · split <;> exact ⟨rfl, rfl⟩

theorem onlyTasks_runForm {paymentMethod : String} {tax : TaxQuote} :
    OnlyTasks w (w.runForm mark n claim customer paymentMethod tax) := by
  unfold runForm
  split
  · split <;> exact ⟨rfl, rfl⟩
  · exact ⟨rfl, rfl⟩

theorem onlyTasks_runNext {next : Next} :
    OnlyTasks w (w.runNext n claim paymentIntentId next) := by
  cases next with
  | hold | fail => exact ⟨rfl, rfl⟩
  | settle =>
      dsimp only [runNext]
      split <;> exact ⟨rfl, rfl⟩

theorem onlyTasks_runReply {reply : Reply} : OnlyTasks w (w.runReply n claim reply) := by
  unfold runReply
  split <;> exact ⟨rfl, rfl⟩

theorem onlyTasks_runReconcile {stale : StripeAutopayIntent} :
    OnlyTasks w (w.runReconcile stale) := by
  unfold runReconcile
  split <;> exact ⟨rfl, rfl⟩

theorem onlyTasks_runLookUp :
    OnlyTasks w (w.runLookUp n paymentIntentId collected) := by
  unfold runLookUp
  split
  · exact ⟨rfl, rfl⟩
  · split <;> exact ⟨rfl, rfl⟩

theorem billing_charge {form : ChargeForm} {made : Option (String × IntentStatus)} :
    (w.charge claim form made).billing = w.billing := by
  cases made <;> rfl

theorem rows_runSaveCustomer :
    (w.runSaveCustomer userId customer).db.stripeAutopayIntents = w.db.stripeAutopayIntents := by
  unfold runSaveCustomer
  split <;> rfl

end OnlyTasks

/-- A settlement's rows, under the name of the step that made it. -/
theorem rowFrom_settle (now : Timestamp)
    (made : w.settles parser provenance action = some (paymentIntentId, collected))
    (mem : row ∈
      (w.billing.runSettle now paymentIntentId (some collected)).db.stripeAutopayIntents) :
    RowFrom parser provenance w action row := by
  obtain ⟨old, origin, finishes⟩ := Billing.intents_runSettle.back mem
  refine .settled made (origin.imp_right ?_) finishes
  rintro ⟨given, hgiven, absent, new⟩
  cases hgiven
  exact ⟨absent, new⟩

theorem rowFrom_step (h : step stripe bounds parser creditText provenance w action = some w')
    (mem : row ∈ w'.db.stripeAutopayIntents) :
    RowFrom parser provenance w action row := by
  have kept : w'.db.stripeAutopayIntents = w.db.stripeAutopayIntents →
      RowFrom parser provenance w action row := fun same => .kept (same ▸ mem)
  unfold step at h
  cases action with
  | billing action =>
      dsimp only at h
      split at h
      next aside =>
        obtain ⟨billing, hbilling, rfl⟩ := Option.map_eq_some_iff.mp h
        exact kept (Billing.sameIntents_aside hbilling aside).intents
      · cases h
  | saveCustomer userId customer =>
      cases h
      exact kept rows_runSaveCustomer
  | sweep userId topupUsd =>
      dsimp only at h
      split at h
      · cases h
        exact kept rfl
      · cases h
  | reconcile now paymentIntentId =>
      dsimp only at h
      split at h
      · split at h
        · cases h
          exact kept onlyTasks_runReconcile.rows
        · cases h
      · cases h
  | deliver now event =>
      dsimp only at h
      split at h
      next known =>
        split at h
        next report hreport =>
          cases h
          cases report with
          | untouched => exact kept rfl
          | failed paymentIntentId recovered => cases recovered <;> exact kept rfl
          | succeeded paymentIntentId collected =>
              refine rowFrom_settle now ?_ mem
              show (if _ then _ else none) = _
              rw [if_pos known, hreport]
        · cases h
          exact kept rfl
      · cases h
  | progress paymentIntentId status =>
      cases h
      exact kept rfl
  | forget idempotencyKey =>
      cases h
      exact kept rfl
  | claim n now idempotencyKey =>
      dsimp only at h
      split at h
      next userId topupUsd found =>
        split at h
        · cases h
        next new =>
          cases h
          unfold runClaim at mem
          cases priced : depositFeeQuote topupUsd .card with
          | none =>
              rw [priced] at mem
              exact .kept mem
          | some quote =>
              rw [priced] at mem
              have entered : row ∈ (w.billing.runClaim now userId topupUsd quote.grossUsd
                  idempotencyKey).db.stripeAutopayIntents := by
                dsimp only at mem
                split at mem <;> exact mem
              rcases Billing.intents_runClaim.back entered with before | new_eq
              · exact .kept before
              · exact .claimed rfl new new_eq
      · cases h
  | rearm n =>
      dsimp only at h
      split at h
      · split at h <;> cases h <;> exact kept rfl
      · cases h
  | replay n =>
      dsimp only at h
      split at h
      · split at h <;> cases h <;> exact kept rfl
      · cases h
  | list n card =>
      dsimp only at h
      split at h
      · cases h
        exact kept onlyTasks_runList.rows
      · cases h
  | readTax n =>
      dsimp only at h
      split at h
      · split at h
        · cases h
          exact kept onlyTasks_runForm.rows
        · cases h
          exact kept rfl
      · cases h
  | freezeTax n now calculation =>
      dsimp only at h
      split at h
      next claim customer paymentMethod found =>
        cases h
        have frozenMem : row ∈ (w.billing.runAutopay ((w.db.freezeAutopayTax now claim.localId
            (calculateAutopayTax calculation).taxUsd
            (calculateAutopayTax calculation).calculationId).map
              Prod.snd)).db.stripeAutopayIntents := by
          unfold runFreezeTax at mem
          dsimp only at mem
          split at mem
          · exact mem
          · split at mem
            · rw [onlyTasks_runForm.rows] at mem
              exact mem
            · exact mem
          · exact mem
        rcases Billing.intents_freezeAutopayTax.back frozenMem with
          before | ⟨old, hold, pending, row_eq⟩
        · exact .kept before
        · exact .priced hold pending row_eq
      · cases h
  | guard n =>
      dsimp only at h
      split at h
      · split at h <;> cases h <;> exact kept rfl
      · cases h
  | post n made reply =>
      dsimp only at h
      split at h
      · split at h
        · cases h
          refine kept (onlyTasks_runReply.rows.trans ?_)
          rw [db, db, billing_charge]
        · cases h
      · cases h
  | attach n now =>
      dsimp only at h
      split at h
      next claim paymentIntentId next found =>
        cases h
        have renamedMem : row ∈ (w.billing.runRename now claim.idempotencyKey
            paymentIntentId).db.stripeAutopayIntents := by
          unfold runAttach at mem
          dsimp only at mem
          split at mem
          · exact mem
          · rw [onlyTasks_runNext.rows] at mem
            exact mem
          · exact mem
        rcases Billing.intents_runRename.back renamedMem with
          before | ⟨old, hold, ⟨id, free⟩, row_eq⟩
        · exact .kept before
        · exact .attached rfl found hold id (fun other hother same => free ⟨other, hother, same⟩)
            row_eq
      · cases h
  | drop n =>
      dsimp only at h
      split at h
      · cases h
        rw [onlyTasks_runNext.rows] at mem
        exact .kept (Table.mem_deleteWhere.mp mem).1
      · cases h
  | settle n now =>
      dsimp only at h
      split at h
      next paymentIntentId collected found =>
        cases h
        refine rowFrom_settle now ?_ mem
        show (match w.tasks[n]? with | some (.settling _ _) => _ | _ => none) = _
        rw [found]
      · cases h
  | fail n now =>
      dsimp only at h
      split at h
      next paymentIntentId found =>
        cases h
        rcases Billing.intents_runFail.back mem with before | ⟨old, hold, pending, row_eq⟩
        · exact .kept before
        · exact .failed rfl found hold pending row_eq
      · cases h
  | lookUp n =>
      dsimp only at h
      split at h
      · cases h
        exact kept onlyTasks_runLookUp.rows
      · cases h
  | record n now =>
      dsimp only at h
      split at h
      next paymentIntentId collected found =>
        cases h
        rcases Billing.intents_recordAutopayCharge.back mem with before | row_eq
        · exact .kept before
        · exact .recorded rfl found row_eq
      · cases h
  | crash n =>
      cases h
      exact kept rfl

/-! ## Stripe's intents -/

theorem intents_runSaveCustomer :
    (w.runSaveCustomer userId customer).intents = w.intents := by
  unfold runSaveCustomer
  split <;> rfl

/-- A step leaves Stripe's intents alone, makes one of the request it posts, or lets them
    move on. -/
theorem intents_step (h : step stripe bounds parser creditText provenance w action = some w') :
    w'.intents = w.intents ∨
      (∃ n claim form made reply, action = .post n (some made) reply ∧
        w.tasks[n]? = some (.posting claim form) ∧
        w'.intents = (w.charge claim form (some made)).intents) ∨
      ∃ f : PaymentIntent → PaymentIntent, (∀ intent : PaymentIntent, intent.Later (f intent)) ∧
        w'.intents = w.intents.map f := by
  unfold step at h
  cases action with
  | billing action =>
      dsimp only at h
      split at h
      · obtain ⟨billing, -, rfl⟩ := Option.map_eq_some_iff.mp h
        exact .inl rfl
      · cases h
  | saveCustomer userId customer =>
      cases h
      exact .inl intents_runSaveCustomer
  | sweep userId topupUsd =>
      dsimp only at h
      split at h
      · cases h
        exact .inl rfl
      · cases h
  | reconcile now paymentIntentId =>
      dsimp only at h
      split at h
      · split at h
        · cases h
          exact .inl onlyTasks_runReconcile.intents
        · cases h
      · cases h
  | deliver now event =>
      dsimp only at h
      split at h
      · split at h
        next report _ =>
          cases h
          cases report with
          | untouched | succeeded => exact .inl rfl
          | failed paymentIntentId recovered => cases recovered <;> exact .inl rfl
        · cases h
          exact .inl rfl
      · cases h
  | progress paymentIntentId status =>
      cases h
      exact .inr (.inr ⟨_, fun intent => later_progress, rfl⟩)
  | forget idempotencyKey =>
      cases h
      exact .inr (.inr ⟨_, fun intent => later_forget, rfl⟩)
  | claim n now idempotencyKey =>
      dsimp only at h
      split at h
      · split at h
        · cases h
        · cases h
          refine .inl ?_
          unfold runClaim
          split
          · rfl
          · dsimp only
            split <;> rfl
      · cases h
  | rearm n =>
      dsimp only at h
      split at h
      · split at h <;> cases h <;> exact .inl rfl
      · cases h
  | replay n =>
      dsimp only at h
      split at h
      · split at h <;> cases h <;> exact .inl rfl
      · cases h
  | list n card =>
      dsimp only at h
      split at h
      · cases h
        exact .inl onlyTasks_runList.intents
      · cases h
  | readTax n =>
      dsimp only at h
      split at h
      · split at h
        · cases h
          exact .inl onlyTasks_runForm.intents
        · cases h
          exact .inl rfl
      · cases h
  | freezeTax n now calculation =>
      dsimp only at h
      split at h
      · cases h
        refine .inl ?_
        unfold runFreezeTax
        dsimp only
        split
        · rfl
        · split
          · exact onlyTasks_runForm.intents
          · rfl
        · rfl
      · cases h
  | guard n =>
      dsimp only at h
      split at h
      · split at h <;> cases h <;> exact .inl rfl
      · cases h
  | post n made reply =>
      dsimp only at h
      split at h
      next claim form found =>
        split at h
        · cases h
          cases made with
          | none => exact .inl onlyTasks_runReply.intents
          | some made =>
              exact .inr (.inl ⟨n, claim, form, made, reply, rfl, found,
                onlyTasks_runReply.intents⟩)
        · cases h
      · cases h
  | attach n now =>
      dsimp only at h
      split at h
      · cases h
        refine .inl ?_
        unfold runAttach
        dsimp only
        split
        · rfl
        · exact onlyTasks_runNext.intents
        · rfl
      · cases h
  | drop n =>
      dsimp only at h
      split at h
      · cases h
        exact .inl onlyTasks_runNext.intents
      · cases h
  | settle n now | fail n now | record n now =>
      dsimp only at h
      split at h
      · cases h
        exact .inl rfl
      · cases h
  | lookUp n =>
      dsimp only at h
      split at h
      · cases h
        exact .inl onlyTasks_runLookUp.intents
      · cases h
  | crash n =>
      cases h
      exact .inl rfl

theorem grown_step (h : step stripe bounds parser creditText provenance w action = some w') :
    ∀ intent ∈ w.intents, ∃ intent' ∈ w'.intents, intent.Later intent' := by
  intro intent mem
  rcases intents_step h with same | ⟨n, claim, form, made, reply, -, -, same⟩ | ⟨f, later, same⟩
  · exact ⟨intent, same ▸ mem, .refl intent⟩
  · refine ⟨intent, ?_, .refl intent⟩
    rw [same]
    exact List.mem_cons_of_mem _ mem
  · refine ⟨f intent, ?_, later intent⟩
    rw [same]
    exact List.mem_map_of_mem mem

end ZeroRouter.Recharge
