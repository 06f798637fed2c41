import ZeroRouter.Proofs.Intents
import ZeroRouter.Proofs.Reversal

/-!
# What each step did to autopay

One inversion of a step of the billing system: what it did to the rows of the intents, to the
switches and the failures counted, and to the credits of autopay in the ledger.
-/

namespace ZeroRouter.Billing

open Relational AutopayDb

variable {event : ReversalEvent} {n : Nat} {row : CreditLedger} {fate : Fate}
  {creditedUsd : Decimal} {key : String} {db : Db}

/-! ## The credits of autopay -/

/-- The credit of an intent's row, but for the balance it left. -/
def creditOf (row : StripeAutopayIntent) : CreditLedger :=
  autopayEntry row.userId row.amountUsd row.paymentIntentId 0

namespace Standing

/-- The credits of autopay. -/
def autopays (s : Standing) : List CreditLedger := s.rows.filter fun row => row.entryType = .autopay

variable {s : Standing} {now : Timestamp} {userId : Uuid} {paymentIntentId : String}

theorem autopays_enter (other : row.entryType ≠ .autopay) :
    (s.enter row).autopays = s.autopays := by
  unfold enter autopays
  by_cases stripe : isStripe row
  · rw [if_pos stripe, List.filter_append]
    simp [unsnapped, other]
  · rw [if_neg stripe]

theorem autopays_enter_autopay (autopay : row.entryType = .autopay) :
    (s.enter row).autopays = s.autopays ++ [unsnapped row] := by
  unfold enter autopays
  rw [if_pos (.inr (.inl autopay)), List.filter_append]
  simp [unsnapped, autopay]

@[simp] theorem autopays_freeze {reason : FrozenReason} :
    (s.freeze userId reason).autopays = s.autopays := rfl

@[simp] theorem autopays_unfreeze : (s.unfreeze userId).autopays = s.autopays := rfl

@[simp] theorem autopays_observe :
    (s.observe now event).autopays = s.autopays := rfl

@[simp] theorem autopays_stamp {p : StripeObservedReversal → Prop} [DecidablePred p] :
    (s.stamp now p).autopays = s.autopays := rfl

theorem autopays_refund {objectId note : String} :
    (s.enter (refundEntry userId creditedUsd objectId paymentIntentId note 0)).autopays =
      s.autopays := autopays_enter (show EntryType.refund ≠ EntryType.autopay by decide)

theorem autopays_meet {tombstone : StripeObservedReversal} :
    (s.meet now userId paymentIntentId creditedUsd tombstone).autopays = s.autopays := by
  have frozen : (s.dispute userId tombstone).autopays = s.autopays := by
    unfold dispute
    split <;> rfl
  have taken : ((s.dispute userId tombstone).takeBack userId paymentIntentId creditedUsd
      tombstone).autopays = s.autopays := by
    unfold takeBack
    split
    · rw [autopays_refund, frozen]
    · exact frozen
  unfold meet
  dsimp only
  split
  · exact taken
  · exact taken

theorem autopays_meetAll :
    (s.meetAll now userId paymentIntentId creditedUsd).autopays = s.autopays := by
  unfold meetAll
  generalize s.waiting paymentIntentId = tombstones
  induction tombstones generalizing s with
  | nil => rfl
  | cons first rest ih => rw [List.foldl_cons, ih, autopays_meet]

theorem autopays_credit {paymentIntent : Option String} :
    (s.credit now row paymentIntent).autopays = (s.enter row).autopays := by
  cases paymentIntent with
  | none => rfl
  | some paymentIntentId => exact autopays_meetAll

end Standing

/-- The credits of autopay in a ledger. -/
def autopays (db : Db) : List CreditLedger := (standing db).autopays

theorem mem_autopays (mem : row ∈ db.creditLedger) (autopay : row.entryType = .autopay) :
    unsnapped row ∈ autopays db :=
  List.mem_filter.mpr ⟨mem_rows mem (.inr (.inl autopay)), decide_eq_true autopay⟩

theorem of_mem_autopays {entry : CreditLedger} (mem : entry ∈ autopays db) :
    ∃ row ∈ db.creditLedger, row.entryType = .autopay ∧ unsnapped row = entry := by
  obtain ⟨inside, autopay⟩ := List.mem_filter.mp mem
  obtain ⟨row, hrow, -, rfl⟩ := of_mem_rows inside
  exact ⟨row, hrow, of_decide_eq_true autopay, rfl⟩

/-! ## What a step did -/

/-- The switches and what moved them are as they were. -/
structure SameArming (w w' : World) : Prop where
  settings : w'.db.autopaySettings = w.db.autopaySettings
  marks : w'.marks = w.marks

/-- A success was credited. -/
structure Pays (w w' : World) (now : Timestamp) (paymentIntentId : String)
    (intents : Table stripeAutopayIntentsTable) (intent : StripeAutopayIntent) : Prop where
  mem : intent ∈ intents
  pending : isPending paymentIntentId intent
  rows : intents.updateWhere (isPending paymentIntentId) (finished now .succeeded) =
    .ok w'.db.stripeAutopayIntents
  armed : w.db.autopayStillArmed intent.userId
  settings : w.db.autopaySettings.updateWhere (fun row => row.userId = intent.userId)
    (fun row => { row with autopayConsecutiveFailures := 0 }) = .ok w'.db.autopaySettings
  marks : w'.marks = .reset intent.userId :: w.marks
  credits : autopays w'.db.toDb = autopays w.db.toDb ++ [creditOf intent]

/-- A settlement that credits nothing: a pending row is withheld, or failed, or there is none. -/
structure Holds (w w' : World) (now : Timestamp) (paymentIntentId : String)
    (intents : Table stripeAutopayIntentsTable) : Prop where
  rows : w'.db.stripeAutopayIntents = intents ∨
    ∃ status, (status = .withheld ∨ status = .failed) ∧ ∀ row, row ∈ w'.db.stripeAutopayIntents ↔
      ∃ old ∈ intents, Table.rewrite (isPending paymentIntentId) (finished now status) old = row
  arming : SameArming w w'
  credits : autopays w'.db.toDb = autopays w.db.toDb

variable (stripe : StripeObjects)

/-- What a step did to autopay. -/
inductive Did (w w' : World) : Action → Prop where
  | aside {action : Action} (intents : SameIntents w w') (arming : SameArming w w')
      (credits : autopays w'.db.toDb = autopays w.db.toDb) : Did w w' action
  | armed {userId : Uuid} {thresholdUsd topupUsd : Decimal} {hasCard : Bool}
      (intents : SameIntents w w') (credits : autopays w'.db.toDb = autopays w.db.toDb)
      (settings : w.db.autopaySettings.updateWhere (fun row => row.userId = userId) (fun row =>
        { row with
          autopayEnabled := true
          autopayThresholdUsd := some thresholdUsd
          autopayTopupUsd := some topupUsd
          autopayConsecutiveFailures := 0 }) = .ok w'.db.autopaySettings)
      (marks : w'.marks = .reset userId :: w.marks) :
      Did w w' (.armAutopay userId thresholdUsd topupUsd hasCard)
  | disarmed {userId : Uuid} (intents : SameIntents w w')
      (credits : autopays w'.db.toDb = autopays w.db.toDb)
      (settings : w.db.autopaySettings.updateWhere (fun row => row.userId = userId) (fun row =>
        { row with autopayEnabled := false }) = .ok w'.db.autopaySettings)
      (marks : w'.marks = w.marks) : Did w w' (.disarmAutopay userId)
  | claimed {now : Timestamp} {userId : Uuid} {amountUsd chargeAmountUsd : Decimal} {key : String}
      (new : key ∉ w.claimed)
      (entered : Entered w.db.stripeAutopayIntents
        (newIntent now (localId key) userId amountUsd chargeAmountUsd) w'.db.stripeAutopayIntents)
      (drawn : w'.claimed = key :: w.claimed) (arming : SameArming w w')
      (credits : autopays w'.db.toDb = autopays w.db.toDb) :
      Did w w' (.claimAutopayAttempt now userId amountUsd chargeAmountUsd key)
  | renamed {now : Timestamp} {key paymentIntentId : String}
      (genuine : stripe.object paymentIntentId = .paymentIntent none)
      (rows : Rewritten w.db.stripeAutopayIntents
        (fun row => row.paymentIntentId = localId key ∧
          ¬ ∃ other ∈ w.db.stripeAutopayIntents, other.paymentIntentId = paymentIntentId)
        (Billing.renamed now paymentIntentId) w'.db.stripeAutopayIntents)
      (drawn : w'.claimed = w.claimed) (arming : SameArming w w')
      (credits : autopays w'.db.toDb = autopays w.db.toDb) :
      Did w w' (.renameClaim now key paymentIntentId)
  | dropped {key : String}
      (rows : w'.db.stripeAutopayIntents = w.db.stripeAutopayIntents.deleteWhere
        fun row => row.paymentIntentId = localId key)
      (drawn : w'.claimed = w.claimed) (arming : SameArming w w')
      (credits : autopays w'.db.toDb = autopays w.db.toDb) : Did w w' (.dropClaim key)
  | priced {now : Timestamp} {paymentIntentId : String} {taxUsd : Decimal}
      {calculationId : Option String}
      (rows : Rewritten w.db.stripeAutopayIntents (isPending paymentIntentId)
        (frozen now taxUsd calculationId) w'.db.stripeAutopayIntents)
      (drawn : w'.claimed = w.claimed) (arming : SameArming w w')
      (credits : autopays w'.db.toDb = autopays w.db.toDb) :
      Did w w' (.freezeAutopayTax now paymentIntentId taxUsd calculationId)
  | paid {now : Timestamp} {paymentIntentId : String}
      {recovered : Option (Uuid × Decimal × Decimal)} {intents : Table stripeAutopayIntentsTable}
      {intent : StripeAutopayIntent}
      (genuine : stripe.object paymentIntentId = .paymentIntent none)
      (recovers : Recovers w.db.stripeAutopayIntents now paymentIntentId recovered intents)
      (drawn : w'.claimed = w.claimed) (pays : Pays w w' now paymentIntentId intents intent) :
      Did w w' (.settleAutopayIntent now paymentIntentId recovered)
  | held {now : Timestamp} {paymentIntentId : String}
      {recovered : Option (Uuid × Decimal × Decimal)} {intents : Table stripeAutopayIntentsTable}
      (genuine : stripe.object paymentIntentId = .paymentIntent none)
      (recovers : Recovers w.db.stripeAutopayIntents now paymentIntentId recovered intents)
      (drawn : w'.claimed = w.claimed) (holds : Holds w w' now paymentIntentId intents) :
      Did w w' (.settleAutopayIntent now paymentIntentId recovered)
  | failed {now : Timestamp} {paymentIntentId : String} {intent : StripeAutopayIntent}
      (mem : intent ∈ w.db.stripeAutopayIntents) (pending : isPending paymentIntentId intent)
      (rows : w.db.stripeAutopayIntents.updateWhere (isPending paymentIntentId)
        (finished now .failed) = .ok w'.db.stripeAutopayIntents)
      (settings : w.db.autopaySettings.updateWhere (fun row => row.userId = intent.userId)
        AutopaySettings.strike = .ok w'.db.autopaySettings)
      (drawn : w'.claimed = w.claimed)
      (marks : w'.marks = .strike paymentIntentId intent.userId :: w.marks)
      (credits : autopays w'.db.toDb = autopays w.db.toDb) :
      Did w w' (.failAutopayIntent now paymentIntentId)
  | recorded {now : Timestamp} {paymentIntentId : String} {userId : Uuid}
      {amountUsd chargeAmountUsd : Decimal}
      (genuine : stripe.object paymentIntentId = .paymentIntent none)
      (entered : Entered w.db.stripeAutopayIntents
        (newIntent now paymentIntentId userId amountUsd chargeAmountUsd) w'.db.stripeAutopayIntents)
      (drawn : w'.claimed = w.claimed) (arming : SameArming w w')
      (credits : autopays w'.db.toDb = autopays w.db.toDb) :
      Did w w' (.recordAutopayCharge now paymentIntentId userId amountUsd chargeAmountUsd)

section Steps

variable {stripe} {bounds : CheckoutBounds} {w w' : World} {action : Action} {now : Timestamp}
  {userId : Uuid} {paymentIntentId : String} {credit : CreditLedger} {amountUsd : Decimal}
  {result : Except SqlError AutopayDb}

/-! ## The other parts of the system -/

/-- Neither a switch nor a credit of autopay was touched. -/
structure Quiet (w w' : World) : Prop where
  arming : SameArming w w'
  credits : autopays w'.db.toDb = autopays w.db.toDb

/-- Only deliveries changed. -/
structure OnlyDeliveries (w w' : World) : Prop where
  db : w'.db = w.db
  marks : w'.marks = w.marks

theorem OnlyDeliveries.quiet (h : OnlyDeliveries w w') : Quiet w w' := by
  refine ⟨⟨?_, h.marks⟩, ?_⟩
  · rw [h.db]
  · rw [h.db]

theorem quiet_run {result : Except SqlError Db}
    (same : ∀ db, result = .ok db → autopays db = autopays w.db.toDb) : Quiet w (w.run result) := by
  cases result with
  | error => exact ⟨⟨rfl, rfl⟩, rfl⟩
  | ok db => exact ⟨⟨rfl, rfl⟩, same db rfl⟩

theorem quiet_transact {α : Type} {next : World → α → World} {result : Except SqlError (α × Db)}
    (only : ∀ w answer, OnlyDeliveries w (next w answer))
    (same : ∀ answer db, result = .ok (answer, db) → autopays db = autopays w.db.toDb) :
    Quiet w (w.transact n fate next result) := by
  unfold World.transact
  split
  · exact ⟨⟨rfl, rfl⟩, rfl⟩
  next answer db =>
    have ran : Quiet w (w.run (.ok db)) := ⟨⟨rfl, rfl⟩, same answer db rfl⟩
    cases fate with
    | commit =>
        obtain ⟨db_eq, marks_eq⟩ := only (w.run (.ok db)) answer
        refine ⟨⟨?_, marks_eq⟩, ?_⟩
        · rw [db_eq]
          rfl
        · rw [db_eq]
          exact ran.credits
    | commitUnseen => exact ⟨⟨rfl, rfl⟩, ran.credits⟩
    | rollback => exact ⟨⟨rfl, rfl⟩, rfl⟩

theorem onlyDeliveries_assess :
    OnlyDeliveries w (w.assess n event credit) := by
  unfold World.assess
  split <;> exact ⟨rfl, rfl⟩

theorem quiet_runResolve :
    Quiet w (w.runResolve n event now fate) := by
  refine quiet_transact (fun w found => ?_) fun found db h => ?_
  · cases found with
    | none => exact ⟨rfl, rfl⟩
    | some credit =>
        dsimp only
        split
        · exact ⟨rfl, rfl⟩
        · exact onlyDeliveries_assess
  · obtain ⟨-, -, same⟩ := standing_resolveReversalAgainstCredit h
    unfold autopays
    rw [same]
    split <;> rfl

theorem quiet_runFreeze :
    Quiet w (w.runFreeze n event credit now fate) := by
  refine quiet_transact (fun w _ => onlyDeliveries_assess) fun _ db h => ?_
  obtain ⟨frozen, hfrozen, h⟩ := map_eq_ok.mp h
  cases h
  unfold autopays
  rw [standing_freezeAccount hfrozen]
  rfl

theorem quiet_runReverse (unanchored : Unanchored w.db.toDb) :
    Quiet w (w.runReverse n event fate) := by
  refine quiet_transact (fun w outcome => ?_) fun outcome db h => ?_
  · cases outcome <;> exact ⟨rfl, rfl⟩
  · obtain ⟨-, found⟩ := standing_reversePurchase unanchored h
    unfold autopays
    cases credit : w.db.toDb.creditedPurchase event.paymentIntent with
    | none =>
        rw [credit] at found
        rw [found.2]
    | some credit' =>
        rw [credit] at found
        rw [found.2]
        split
        · rfl
        · exact Standing.autopays_refund

theorem quiet_runStamp :
    Quiet w (w.runStamp n event now fate) := by
  refine quiet_transact (fun w _ => ⟨rfl, rfl⟩) fun _ db h => ?_
  obtain ⟨stamped, hstamped, h⟩ := map_eq_ok.mp h
  cases h
  obtain ⟨-, same⟩ := standing_markIntentReversalsApplied hstamped
  unfold autopays
  rw [same]
  rfl

theorem quiet_creditPurchase {stripeSessionId : String} {stripePaymentIntentId : Option String}
    (unanchored : Unanchored w.db.toDb) :
    Quiet w (w.run ((w.db.creditPurchase now userId amountUsd stripeSessionId
      stripePaymentIntentId).map Prod.snd)) := by
  refine quiet_run fun db h => ?_
  obtain ⟨⟨outcome, credited⟩, hcredited, rfl⟩ := map_eq_ok.mp h
  obtain ⟨-, same | ⟨-, same⟩⟩ := standing_creditPurchase unanchored hcredited
  · exact congrArg Standing.autopays same
  · unfold autopays
    rw [same, Standing.autopays_credit]
    exact Standing.autopays_enter (show EntryType.purchase ≠ EntryType.autopay by decide)

theorem quiet_post {creditReversal : Bool} (other : isOther row) :
    Quiet w (w.run (w.db.moveBalance row.userId creditReversal .rowNotFound row.amountUsd
      fun balanceAfter => { row with balanceAfterUsd := balanceAfter })) := by
  refine quiet_run fun db h => ?_
  obtain ⟨balanceAfter, same, -⟩ := standing_moveBalance h
  unfold autopays
  rw [same]
  exact Standing.autopays_enter other.2.1

theorem quiet_receive {event : StripeEvent} (h : w.receive stripe event = some w') :
    Quiet w w' := by
  have only : OnlyDeliveries w w' := by
    unfold World.receive at h
    split at h
    · cases h
      exact ⟨rfl, rfl⟩
    · cases h
      exact ⟨rfl, rfl⟩
    · split at h
      · cases h
        exact ⟨rfl, rfl⟩
      · cases h
  exact only.quiet

/-! ## Settlements -/

section Settles

variable {db db' : AutopayDb} {outcome : AutopayOutcome}

theorem Settles.holds (h : Settles db now paymentIntentId outcome db')
    (uncredited : outcome ≠ .credited)
    (money : db.toDb = w.db.toDb) (settings : db.autopaySettings = w.db.autopaySettings)
    (left : w'.db = db') (marks : w'.marks = w.marks) :
    Holds w w' now paymentIntentId db.stripeAutopayIntents := by
  have finishes : _ ∨ ∃ status, Finishes db _ now paymentIntentId none status _ := h.finishes
  cases h with
  | alreadySettled | unknown =>
      refine ⟨.inl (by rw [left]), ⟨by rw [left, settings], marks⟩, by rw [left, money]⟩
  | credited => exact absurd rfl uncredited
  | @withheld intent succeeded intents mem pending moved disarmed held =>
      refine ⟨?_, ⟨by rw [left]; exact settings, marks⟩, by rw [left, ← money]⟩
      rw [left]
      rcases finishes with same | ⟨status, finishes⟩
      · exact .inl same
      · refine .inr ⟨status, ?_, finishes.rows⟩
        cases finishes.verdict intent mem pending with
        | succeeded armed => exact absurd armed disarmed
        | withheld => exact .inl rfl
        | failed => exact .inr rfl

theorem Settles.pays (h : Settles db now paymentIntentId .credited db')
    (unanchored : Unanchored w.db.toDb) (money : db.toDb = w.db.toDb)
    (settings : db.autopaySettings = w.db.autopaySettings) (left : w'.db = db')
    (marks : ∃ row ∈ db'.stripeAutopayIntents, row.paymentIntentId = paymentIntentId ∧
      w'.marks = .reset row.userId :: w.marks) :
    ∃ intent, Pays w w' now paymentIntentId db.stripeAutopayIntents intent := by
  cases h with
  | @credited intent intents reset money' mem pending moved credited =>
      obtain ⟨paid, hpaid, hmet⟩ := credited.paid
      rw [money] at hpaid
      obtain ⟨-, -, same⟩ := standing_autopayCredit unanchored hpaid hmet
      refine ⟨intent, mem, pending, ?_, ?_, ?_, ?_, ?_⟩
      · rw [left]
        exact moved
      · exact (autopayStillArmed_congr money settings intent.userId).mp credited.armed
      · rw [left, ← settings]
        exact credited.reset
      · obtain ⟨row, hrow, id, marks⟩ := marks
        have finishedMem : finished now .succeeded intent ∈ intents := by
          refine (Table.mem_updateWhere moved).mpr ⟨intent, mem, ?_⟩
          rw [Table.rewrite, if_pos pending]
        rw [marks, eq_of_intent hrow finishedMem (id.trans pending.1.symm)]
        rfl
      · rw [left]
        unfold autopays
        dsimp only
        rw [same, Standing.autopays_credit, Standing.autopays_enter_autopay rfl]
        rfl

end Settles

theorem did_runSettle {recovered : Option (Uuid × Decimal × Decimal)}
    (unanchored : Unanchored w.db.toDb)
    (genuine : stripe.object paymentIntentId = .paymentIntent none) :
    Did stripe w (w.runSettle now paymentIntentId recovered)
      (.settleAutopayIntent now paymentIntentId recovered) := by
  cases h : w.db.settleAutopayIntent now paymentIntentId recovered with
  | error =>
      rw [World.runSettle, h]
      exact .aside ⟨rfl, rfl⟩ ⟨rfl, rfl⟩ rfl
  | ok result =>
      obtain ⟨answer, db⟩ := result
      -- what one outcome comes to, from the state its settlement started in
      have settled : ∀ (before : AutopayDb) (outcome : AutopayOutcome),
          Recovers w.db.stripeAutopayIntents now paymentIntentId recovered
            before.stripeAutopayIntents →
          before.toDb = w.db.toDb → before.autopaySettings = w.db.autopaySettings →
          Settles before now paymentIntentId outcome db → answer = .ok outcome →
          Did stripe w (w.runSettle now paymentIntentId recovered)
            (.settleAutopayIntent now paymentIntentId recovered) := by
        rintro before outcome recovers money settings settles rfl
        rw [World.runSettle, h]
        cases outcome with
        | alreadySettled | unknown | withheld =>
            exact .held genuine recovers rfl
              (settles.holds (fun same => nomatch same) money settings rfl rfl)
        | credited =>
            dsimp only
            cases found : db.intent? paymentIntentId with
            | none =>
                cases settles with
                | @credited intent intents reset money' mem pending moved credited =>
                    have finishedMem : finished now .succeeded intent ∈ intents := by
                      refine (Table.mem_updateWhere moved).mpr ⟨intent, mem, ?_⟩
                      rw [Table.rewrite, if_pos pending]
                    exact absurd pending.1
                      (Table.find_none found (finished now .succeeded intent) finishedMem)
            | some row =>
                obtain ⟨mem, id⟩ := Table.find_some found
                have credited : ∃ intent, Pays w ({ w with db }.mark (.reset row.userId)) now
                    paymentIntentId before.stripeAutopayIntents intent :=
                  Settles.pays settles unanchored money settings rfl ⟨row, mem, id, rfl⟩
                obtain ⟨intent, pays⟩ := credited
                exact .paid genuine recovers rfl pays
      cases settleAutopayIntent_ok h with
      | stored settles => exact settled w.db _ (.inl rfl) rfl rfl settles rfl
      | agreed recovers mem id agrees settles =>
          obtain ⟨entered, users, settings⟩ := recoverIntent_recovers recovers
          exact settled _ _ entered users settings settles rfl
      | @disagreed collected recovered row intents error recovers mem id disagrees failed =>
          obtain ⟨entered, users, settings⟩ := recoverIntent_recovers recovers
          rw [World.runSettle, h]
          refine .held genuine entered rfl ⟨.inr ⟨.failed, .inr rfl, fun row =>
            Table.mem_updateWhere failed⟩, ⟨settings, rfl⟩, congrArg autopays users⟩

/-! ## One inversion of a step -/

theorem did_runFail :
    Did stripe w (w.runFail now paymentIntentId) (.failAutopayIntent now paymentIntentId) := by
  unfold World.runFail
  cases h : w.db.failAutopayIntent now paymentIntentId with
  | error => exact .aside ⟨rfl, rfl⟩ ⟨rfl, rfl⟩ rfl
  | ok result =>
      obtain ⟨moved, db⟩ := result
      rcases failAutopayIntent_ok h with
        ⟨rfl, rfl⟩ | ⟨rfl, intent, mem, pending, intents, settings, hintents, hsettings, rfl⟩
      · exact .aside ⟨rfl, rfl⟩ ⟨rfl, rfl⟩ rfl
      · dsimp only
        cases found : w.db.intent? paymentIntentId with
        | none => exact absurd pending.1 (Table.find_none found intent mem)
        | some row =>
            obtain ⟨hrow, id⟩ := Table.find_some found
            obtain rfl := eq_of_intent hrow mem (id.trans pending.1.symm)
            exact .failed mem pending hintents hsettings rfl rfl rfl

theorem did_runArm {thresholdUsd topupUsd : Decimal} {hasCard : Bool} :
    Did stripe w (w.runArm bounds userId thresholdUsd topupUsd hasCard)
      (.armAutopay userId thresholdUsd topupUsd hasCard) := by
  unfold World.runArm
  cases h : w.db.armAutopay bounds userId thresholdUsd topupUsd hasCard with
  | error => exact .aside ⟨rfl, rfl⟩ ⟨rfl, rfl⟩ rfl
  | ok result =>
      obtain ⟨armed, db⟩ := result
      rcases armAutopay_ok h with ⟨rfl, rfl⟩ | ⟨rfl, -, settings, hsettings, rfl⟩
      · exact .aside ⟨rfl, rfl⟩ ⟨rfl, rfl⟩ rfl
      · exact .armed ⟨rfl, rfl⟩ rfl hsettings rfl

/-- An insertion of an intent touches nothing else. -/
theorem quiet_insertUnlessConflict {db db' : AutopayDb} {row : StripeAutopayIntent}
    {inserted : Bool} (h : db.insertUnlessConflict row = .ok (inserted, db')) :
    db'.toDb = db.toDb ∧ db'.autopaySettings = db.autopaySettings := by
  rcases insertUnlessConflict_ok h with rfl | ⟨intents, -, rfl⟩
  · exact ⟨rfl, rfl⟩
  · exact ⟨rfl, rfl⟩

theorem quiet_runAutopay
    (same : ∀ db, result = .ok db →
      db.toDb = w.db.toDb ∧ db.autopaySettings = w.db.autopaySettings) :
    Quiet w (w.runAutopay result) := by
  cases result with
  | error => exact ⟨⟨rfl, rfl⟩, rfl⟩
  | ok db =>
      obtain ⟨money, settings⟩ := same db rfl
      exact ⟨⟨settings, rfl⟩, congrArg autopays money⟩

theorem quiet_runClaim {chargeAmountUsd : Decimal} :
    Quiet w (w.runClaim now userId amountUsd chargeAmountUsd key) := by
  have claims : Quiet w (w.runAutopay ((w.db.claimAutopayAttempt now userId amountUsd
      chargeAmountUsd key).map Prod.snd)) := by
    refine quiet_runAutopay fun db h => ?_
    obtain ⟨⟨inserted, db⟩, hclaim, rfl⟩ := map_eq_ok.mp h
    unfold claimAutopayAttempt at hclaim
    split at hclaim
    · exact quiet_insertUnlessConflict hclaim
    · cases hclaim
      exact ⟨rfl, rfl⟩
  exact ⟨⟨claims.arming.settings, claims.arming.marks⟩, claims.credits⟩

theorem quiet_runRename : Quiet w (w.runRename now key paymentIntentId) := by
  unfold World.runRename
  cases h : w.db.renameClaim now key paymentIntentId with
  | error => exact ⟨⟨rfl, rfl⟩, rfl⟩
  | ok result =>
      obtain ⟨n, db⟩ := result
      obtain ⟨intents, -, -, rfl⟩ := updateIntents_ok h
      cases n <;> exact ⟨⟨rfl, rfl⟩, rfl⟩

theorem claimed_runRename :
    (w.runRename now key paymentIntentId).claimed = w.claimed := by
  unfold World.runRename
  split <;> rfl

theorem claimed_runAutopay :
    (w.runAutopay result).claimed = w.claimed := by
  unfold World.runAutopay
  split <;> rfl

theorem step_did (unanchored : Unanchored w.db.toDb) (h : step stripe bounds w action = some w') :
    Did stripe w w' action := by
  have aside : action.isAside = true → Quiet w w' → Did stripe w w' action := fun is_aside quiet =>
    .aside (sameIntents_aside h is_aside) quiet.arming quiet.credits
  unfold step at h
  split at h
  next genuine =>
    cases action with
    | creditPurchase now userId amountUsd stripeSessionId stripePaymentIntentId =>
        cases h
        exact aside rfl (quiet_creditPurchase unanchored)
    | post row creditReversal =>
        cases h
        exact aside rfl (quiet_post genuine)
    | freezeAccount now userId =>
        cases h
        refine aside rfl (quiet_run fun db h => ?_)
        unfold autopays
        rw [standing_freezeAccount h]
        rfl
    | unfreezeAccount userId =>
        cases h
        have thawed : Quiet w (w.run (w.db.unfreezeAccount userId)) := by
          refine quiet_run fun db h => ?_
          unfold autopays
          rw [standing_unfreezeAccount h]
          rfl
        exact aside rfl ⟨⟨thawed.arming.settings, thawed.arming.marks⟩, thawed.credits⟩
    | deliver event =>
        dsimp only at h
        split at h
        · exact aside rfl (quiet_receive h)
        · cases h
    | resolve n now fate =>
        dsimp only at h
        split at h
        · cases h
          exact aside rfl quiet_runResolve
        · cases h
    | freeze n now fate =>
        dsimp only at h
        split at h
        · cases h
          exact aside rfl quiet_runFreeze
        · cases h
    | reverse n fate =>
        dsimp only at h
        split at h
        · cases h
          exact aside rfl (quiet_runReverse unanchored)
        · cases h
    | stamp n now fate =>
        dsimp only at h
        split at h
        · cases h
          exact aside rfl quiet_runStamp
        · cases h
    | crash n =>
        cases h
        exact aside rfl (OnlyDeliveries.quiet ⟨rfl, rfl⟩)
    | armAutopay userId thresholdUsd topupUsd hasCard =>
        cases h
        exact did_runArm
    | disarmAutopay userId =>
        cases h
        cases hoff : w.db.disarmAutopay userId with
        | error => exact .aside ⟨rfl, rfl⟩ ⟨rfl, rfl⟩ rfl
        | ok db =>
            obtain ⟨settings, hsettings, rfl⟩ := updateSettings_ok hoff
            exact .disarmed ⟨rfl, rfl⟩ rfl hsettings rfl
    | claimAutopayAttempt now userId amountUsd chargeAmountUsd key =>
        dsimp only at h
        split at h
        · cases h
        next new =>
          cases h
          have quiet : Quiet w (w.runClaim now userId amountUsd chargeAmountUsd key) :=
            quiet_runClaim
          exact .claimed new intents_runClaim rfl quiet.arming quiet.credits
    | renameClaim now key paymentIntentId =>
        cases h
        have quiet : Quiet w (w.runRename now key paymentIntentId) := quiet_runRename
        exact .renamed genuine intents_runRename claimed_runRename quiet.arming quiet.credits
    | dropClaim key =>
        dsimp only at h
        split at h
        · cases h
          exact .dropped rfl rfl ⟨rfl, rfl⟩ rfl
        · cases h
    | freezeAutopayTax now paymentIntentId taxUsd calculationId =>
        cases h
        have quiet : Quiet w (w.runAutopay ((w.db.freezeAutopayTax now paymentIntentId taxUsd
            calculationId).map Prod.snd)) := by
          refine quiet_runAutopay fun db h => ?_
          obtain ⟨⟨n, db⟩, hfrozen, rfl⟩ := map_eq_ok.mp h
          obtain ⟨intents, -, -, rfl⟩ := updateIntents_ok hfrozen
          exact ⟨rfl, rfl⟩
        exact .priced intents_freezeAutopayTax claimed_runAutopay quiet.arming quiet.credits
    | settleAutopayIntent now paymentIntentId recovered =>
        cases h
        exact did_runSettle unanchored genuine.1
    | failAutopayIntent now paymentIntentId =>
        cases h
        exact did_runFail
    | recordAutopayCharge now paymentIntentId userId amountUsd chargeAmountUsd =>
        cases h
        have quiet : Quiet w (w.runAutopay (w.db.recordAutopayCharge now paymentIntentId userId
            amountUsd chargeAmountUsd)) := by
          refine quiet_runAutopay fun db h => ?_
          simp only [AutopayDb.recordAutopayCharge, bind_eq_ok] at h
          obtain ⟨⟨inserted, next⟩, hnext, h⟩ := h
          cases h
          exact quiet_insertUnlessConflict hnext
        exact .recorded genuine.1 intents_recordAutopayCharge claimed_runAutopay quiet.arming
          quiet.credits
  · cases h

end Steps

end ZeroRouter.Billing
