import ZeroRouter.Proofs.AutopayOperations
import ZeroRouter.Proofs.Meeting

/-!
# Reversals over whole runs

The invariant of the billing system: its standing is sound, a delivery in flight has
found what its stage says, and an acknowledged event has either left a tombstone or had
its effect on the credit.
-/

namespace ZeroRouter.Billing

open List Relational AutopayDb

variable (stripe : StripeObjects) {db : Db} {credit : CreditLedger} {idempotencyKey : String}
  {bounds : CheckoutBounds}

/-- What is true of the database and of the events delivered. -/
structure Books (opening : Standing) (w : World) : Prop where
  unanchored : Unanchored w.db.toDb
  sound : Sound stripe opening w.delivered w.unfrozen [] (standing w.db.toDb)
  authentic : ∀ event ∈ w.delivered, Authentic stripe event
  wholeIntents : ∀ intent ∈ w.db.stripeAutopayIntents, WholeCents intent.amountUsd
  wholeTopups : ∀ settings ∈ w.db.autopaySettings, ∀ topup ∈ settings.autopayTopupUsd,
    WholeCents topup

/-- What a delivery at a stage has found. -/
def Reached (unfrozen : List Uuid) (s : Standing) (event : ReversalEvent) : Stage → Prop
  | .received => True
  | .freezing credit => unsnapped credit ∈ s.rows ∧ credit.credits event.paymentIntent ∧
      event.isDispute = true
  | .reversing credit => unsnapped credit ∈ s.rows ∧ credit.credits event.paymentIntent ∧
      event.covers credit.amountUsd ∧ (event.isDispute = true → s.held unfrozen credit.userId)
  | .stamping => s.refunded event.paymentIntent ∧
      ∃ credit ∈ s.rows, credit.credits event.paymentIntent ∧
        (event.isDispute = true → s.held unfrozen credit.userId)

/-- The event is remembered, or it has had its effect on the credit. -/
def Answered (unfrozen : List Uuid) (s : Standing) (event : ReversalEvent) : Prop :=
  (∃ tombstone ∈ s.tombstones, tombstone.objectId = event.objectId ∧
      NoLess tombstone.reversedCents event.reversedCents) ∨
    ∃ credit ∈ s.rows, credit.credits event.paymentIntent ∧
      (event.covers credit.amountUsd → s.refunded event.paymentIntent) ∧
      (event.isDispute = true → s.held unfrozen credit.userId)

structure Inv (opening : Standing) (w : World) : Prop where
  books : Books stripe opening w
  deliveries : ∀ delivery ∈ w.deliveries, delivery.event ∈ w.delivered ∧
    Reached w.unfrozen (standing w.db.toDb) delivery.event delivery.stage
  acknowledged : ∀ event ∈ w.acknowledged, event ∈ w.delivered ∧
    (IsIntent stripe event.paymentIntent → Answered w.unfrozen (standing w.db.toDb) event)

variable {stripe}

section Facts

variable {s s' : Standing} {u u' : List Uuid} {event : ReversalEvent}

theorem Later.reached (later : Later u u' s s') {stage : Stage} (h : Reached u s event stage) :
    Reached u' s' event stage := by
  cases stage with
  | received => trivial
  | freezing credit => exact ⟨later.rows _ h.1, h.2⟩
  | reversing credit =>
      obtain ⟨mem, credits, covers, held⟩ := h
      exact ⟨later.rows _ mem, credits, covers, fun dispute => later.held _ (held dispute)⟩
  | stamping =>
      obtain ⟨refunded, credit, mem, credits, held⟩ := h
      exact ⟨later.refunded refunded, credit, later.rows _ mem, credits,
        fun dispute => later.held _ (held dispute)⟩

theorem Later.answered (later : Later u u' s s') (h : Answered u s event) :
    Answered u' s' event := by
  rcases h with ⟨tombstone, mem, same, noLess⟩ | ⟨credit, mem, credits, taken, held⟩
  · obtain ⟨tombstone', mem', same', grows⟩ := later.tombstones tombstone mem
    exact .inl ⟨tombstone', mem', same'.trans same, grows.trans noLess⟩
  · exact .inr ⟨credit, later.rows _ mem, credits, fun covers => later.refunded (taken covers),
      fun dispute => later.held _ (held dispute)⟩

/-- An event without a credit is remembered: what is known of its object has not met a
    credit, and is of the same intent, type and currency. -/
theorem Sound.remembers {opening : Standing} {delivered : List ReversalEvent} {now : Timestamp}
    {left : List String} (sound : Sound stripe opening delivered u left s)
    (authentic : ∀ event ∈ delivered, Authentic stripe event) (object : Authentic stripe event)
    (intent : IsIntent stripe event.paymentIntent)
    (none : ∀ row ∈ s.rows, ¬ row.credits event.paymentIntent) :
    ∃ tombstone ∈ (s.observe now event).tombstones, tombstone.objectId = event.objectId ∧
      NoLess tombstone.reversedCents event.reversedCents := by
  unfold Standing.observe
  split
  next known =>
    obtain ⟨row, hrow, same⟩ := known
    obtain ⟨earlier, hearlier, recorded⟩ := sound.recorded row hrow
    have object' := authentic earlier hearlier
    unfold Authentic at object object'
    rw [recorded.objectId, same, object, StripeObject.reversal.injEq] at object'
    obtain ⟨intent', dispute, currency⟩ := object'
    have absorbs : row.absorbs event := by
      refine ⟨same, ?_, ?_, ?_, ?_⟩
      · by_contra applied
        obtain ⟨credit, hcredit, credits⟩ := sound.early row hrow
          (by rw [← recorded.paymentIntent, ← intent']; exact intent) applied
        rw [← recorded.paymentIntent, ← intent'] at credits
        exact none credit hcredit credits
      · rw [← recorded.paymentIntent, intent']
      · rw [← recorded.isDispute, dispute]
      · rw [← recorded.currency, currency]
    refine ⟨_, mem_map_of_mem hrow, ?_⟩
    unfold Table.rewrite
    rw [if_pos absorbs]
    exact ⟨same, (greatestCents_eq event.reversedCents row.reversedCents).2.1⟩
  next new =>
    exact ⟨event.tombstone now, mem_append_right _ mem_cons_self, rfl, .refl _⟩

end Facts

section Steps

variable {opening : Standing} {w w' : World} {now : Timestamp} {userId : Uuid}
  {paymentIntentId : String} {n : Nat} {event : ReversalEvent} {fate : Fate}

/-- A step the handler has no part in. -/
structure Aside (w w' : World) : Prop where
  deliveries : w'.deliveries = w.deliveries
  delivered : w'.delivered = w.delivered
  acknowledged : w'.acknowledged = w.acknowledged
  later : Later w.unfrozen w'.unfrozen (standing w.db.toDb) (standing w'.db.toDb)

theorem Inv.aside (inv : Inv stripe opening w) (aside : Aside w w')
    (books : Books stripe opening w') : Inv stripe opening w' where
  books := books
  deliveries delivery h := by
    obtain ⟨delivered, reached⟩ := inv.deliveries delivery (aside.deliveries ▸ h)
    exact ⟨aside.delivered ▸ delivered, aside.later.reached reached⟩
  acknowledged event h := by
    obtain ⟨delivered, answered⟩ := inv.acknowledged event (aside.acknowledged ▸ h)
    exact ⟨aside.delivered ▸ delivered, fun intent => aside.later.answered (answered intent)⟩

/-- A statement on the shared tables. -/
theorem Inv.ran (inv : Inv stripe opening w) (unanchored : Unanchored db)
    (sound : Sound stripe opening w.delivered w.unfrozen [] (standing db))
    (later : Later w.unfrozen w.unfrozen (standing w.db.toDb) (standing db)) :
    Inv stripe opening (w.run (.ok db)) :=
  inv.aside ⟨rfl, rfl, rfl, later⟩
    ⟨unanchored, sound, inv.books.authentic, inv.books.wholeIntents, inv.books.wholeTopups⟩

/-! ## The handler -/

theorem Inv.fail (inv : Inv stripe opening w) (n : Nat) : Inv stripe opening (w.fail n) where
  books := ⟨inv.books.unanchored, inv.books.sound, inv.books.authentic, inv.books.wholeIntents,
    inv.books.wholeTopups⟩
  deliveries delivery h := inv.deliveries delivery (mem_of_mem_eraseIdx h)
  acknowledged := inv.acknowledged

theorem Inv.advance (inv : Inv stripe opening w) {stage : Stage} (delivered : event ∈ w.delivered)
    (reached : Reached w.unfrozen (standing w.db.toDb) event stage) :
    Inv stripe opening (w.advance n event stage) where
  books := ⟨inv.books.unanchored, inv.books.sound, inv.books.authentic, inv.books.wholeIntents,
    inv.books.wholeTopups⟩
  deliveries delivery h := by
    rcases mem_or_eq_of_mem_set h with old | rfl
    · exact inv.deliveries delivery old
    · exact ⟨delivered, reached⟩
  acknowledged := inv.acknowledged

theorem Inv.acknowledge (inv : Inv stripe opening w) (delivered : event ∈ w.delivered)
    (answered : IsIntent stripe event.paymentIntent →
      Answered w.unfrozen (standing w.db.toDb) event) :
    Inv stripe opening (w.acknowledge n event) where
  books := ⟨inv.books.unanchored, inv.books.sound, inv.books.authentic, inv.books.wholeIntents,
    inv.books.wholeTopups⟩
  deliveries delivery h := inv.deliveries delivery (mem_of_mem_eraseIdx h)
  acknowledged other h := by
    rcases mem_cons.mp h with rfl | old
    · exact ⟨delivered, answered⟩
    · exact inv.acknowledged other old

/-- Whatever becomes of a transaction, it is enough to follow it to its commit. -/
theorem Inv.transact {α : Type} (inv : Inv stripe opening w) {next : World → α → World}
    {result : Except SqlError (α × Db)}
    (commits : ∀ answer db, result = .ok (answer, db) →
      Inv stripe opening (w.run (.ok db)) ∧ Inv stripe opening (next (w.run (.ok db)) answer)) :
    Inv stripe opening (w.transact n fate next result) := by
  unfold World.transact
  split
  · exact inv.fail n
  next answer db =>
    obtain ⟨ran, advanced⟩ := commits answer db rfl
    cases fate with
    | commit => exact advanced
    | commitUnseen => exact ran.fail n
    | rollback => exact inv.fail n

theorem Inv.assess (inv : Inv stripe opening w) (delivered : event ∈ w.delivered)
    (mem : unsnapped credit ∈ (standing w.db.toDb).rows)
    (credits : credit.credits event.paymentIntent)
    (held : event.isDispute = true → (standing w.db.toDb).held w.unfrozen credit.userId) :
    Inv stripe opening (w.assess n event credit) := by
  have whole : WholeCents credit.amountUsd := by
    refine inv.books.sound.whole (unsnapped credit) mem fun refund => ?_
    rcases credits.1 with purchase | autopay
    · exact absurd (purchase.symm.trans refund) (by decide)
    · exact absurd (autopay.symm.trans refund) (by decide)
  unfold World.assess
  rw [coversTheCredit_eq whole]
  by_cases covers : event.covers credit.amountUsd
  · rw [decide_eq_true covers]
    exact inv.advance delivered ⟨mem, credits, covers, held⟩
  · rw [decide_eq_false covers]
    exact inv.acknowledge delivered fun _ =>
      .inr ⟨unsnapped credit, mem, credits, fun does => absurd does covers, held⟩

/-- The lookup of an intent's credit. -/
theorem creditedPurchase_some (h : db.creditedPurchase paymentIntentId = some credit) :
    unsnapped credit ∈ (standing db).rows ∧ credit.credits paymentIntentId := by
  obtain ⟨mem, credits⟩ := Table.find_some h
  exact ⟨mem_rows mem (isStripe_of_credits credits), credits⟩

theorem creditedPurchase_none (h : db.creditedPurchase paymentIntentId = none) :
    ∀ row ∈ (standing db).rows, ¬ row.credits paymentIntentId := by
  intro row hrow
  obtain ⟨full, hfull, -, rfl⟩ := of_mem_rows hrow
  exact Table.find_none h full hfull

theorem Inv.runResolve (inv : Inv stripe opening w) (delivered : event ∈ w.delivered) :
    Inv stripe opening (w.runResolve n event now fate) := by
  refine inv.transact fun found db h => ?_
  obtain ⟨ledger, rfl, same⟩ := standing_resolveReversalAgainstCredit h
  have unanchored : Unanchored db := by
    unfold Unanchored
    rw [ledger]
    exact inv.books.unanchored
  cases hfound : w.db.toDb.creditedPurchase event.paymentIntent with
  | some credit =>
      rw [hfound] at same
      obtain ⟨mem, credits⟩ := creditedPurchase_some hfound
      have ran : Inv stripe opening (w.run (.ok db)) := by
        refine inv.ran unanchored ?_ ?_
        · rw [same]
          exact inv.books.sound
        · rw [same]
          exact .refl _ _
      have mem' : unsnapped credit ∈ (standing db).rows := same ▸ mem
      refine ⟨ran, ?_⟩
      dsimp only
      split
      next dispute => exact ran.advance delivered ⟨mem', credits, dispute⟩
      next refund =>
        exact ran.assess delivered mem' credits fun dispute => absurd dispute refund
  | none =>
      rw [hfound] at same
      have same : standing db = (standing w.db.toDb).observe now event := same
      have ran : Inv stripe opening (w.run (.ok db)) := by
        refine inv.ran unanchored ?_ ?_
        · rw [same]
          exact inv.books.sound.observe delivered (creditedPurchase_none hfound)
        · rw [same]
          exact later_observe event
      refine ⟨ran, ran.acknowledge delivered fun intent => .inl ?_⟩
      change ∃ tombstone ∈ (standing db).tombstones, _
      rw [same]
      exact inv.books.sound.remembers inv.books.authentic (inv.books.authentic event delivered)
        intent (creditedPurchase_none hfound)

theorem Inv.runFreeze (inv : Inv stripe opening w) (delivered : event ∈ w.delivered)
    (mem : unsnapped credit ∈ (standing w.db.toDb).rows)
    (credits : credit.credits event.paymentIntent) (dispute : event.isDispute = true) :
    Inv stripe opening (w.runFreeze n event credit now fate) := by
  refine inv.transact fun _ db h => ?_
  obtain ⟨frozen, hfrozen, h⟩ := map_eq_ok.mp h
  cases h
  have same := standing_freezeAccount hfrozen
  have ran : Inv stripe opening (w.run (.ok db)) := by
    refine inv.ran (inv.books.unanchored.freezeAccount hfrozen) ?_ ?_
    · rw [same]
      exact inv.books.sound.freeze fun _ =>
        ⟨event, delivered, dispute, unsnapped credit, mem, credits, rfl⟩
    · rw [same]
      exact later_freeze _
  have mem' : unsnapped credit ∈ (standing db).rows := by
    rw [same]
    exact mem
  refine ⟨ran, ran.assess delivered mem' credits fun _ => ?_⟩
  have known : ((standing w.db.toDb).account credit.userId).isSome = true :=
    inv.books.sound.known (unsnapped credit) mem
  obtain ⟨frozen, known⟩ := Option.isSome_iff_exists.mp known
  change (standing db).held _ _
  rw [same]
  exact .inl ⟨frozen.getD .dispute, by cases frozen <;> simp [Standing.freeze, known]⟩

theorem Inv.runReverse (inv : Inv stripe opening w) (delivered : event ∈ w.delivered)
    (mem : unsnapped credit ∈ (standing w.db.toDb).rows)
    (credits : credit.credits event.paymentIntent) (covers : event.covers credit.amountUsd)
    (held : event.isDispute = true → (standing w.db.toDb).held w.unfrozen credit.userId) :
    Inv stripe opening (w.runReverse n event fate) := by
  refine inv.transact fun outcome db h => ?_
  have object := inv.books.authentic event delivered
  obtain ⟨unanchored, found⟩ := standing_reversePurchase inv.books.unanchored h
  cases hfound : w.db.toDb.creditedPurchase event.paymentIntent with
  | none => exact absurd credits (creditedPurchase_none hfound (unsnapped credit) mem)
  | some credit' =>
      rw [hfound] at found
      obtain ⟨known, same⟩ := found
      obtain ⟨mem', credits'⟩ := creditedPurchase_some hfound
      have isCredit : unsnapped credit' = unsnapped credit :=
        inv.books.sound.unique mem' mem credits' credits
      have user : credit'.userId = credit.userId :=
        (congrArg CreditLedger.userId isCredit :)
      have amount : credit'.amountUsd = credit.amountUsd :=
        (congrArg CreditLedger.amountUsd isCredit :)
      rw [user, amount] at same
      have later : Later w.unfrozen w.unfrozen (standing w.db.toDb) (standing db) := by
        rw [same]
        split
        · exact .refl _ _
        · exact later_enter _
      have refunded : (standing db).refunded event.paymentIntent := by
        rw [same]
        split
        next reversed => exact (inv.books.sound.reversed_iff object).mp reversed
        next fresh =>
          unfold Standing.enter
          rw [if_pos (.inr (.inr rfl))]
          exact ⟨_, mem_append_right _ mem_cons_self, rfl, rfl⟩
      have ran : Inv stripe opening (w.run (.ok db)) := by
        refine inv.ran unanchored ?_ later
        rw [same]
        split
        · exact inv.books.sound
        next fresh =>
          have refund :=
            inv.books.sound.refund event.note mem credits delivered object covers fresh
          exact refund
      have stamping : Inv stripe opening ((w.run (.ok db)).advance n event .stamping) :=
        ran.advance delivered ⟨refunded, unsnapped credit, later.rows _ mem, credits,
          fun dispute => later.held _ (held dispute)⟩
      refine ⟨ran, ?_⟩
      cases outcome with
      | unknownPurchase => exact absurd rfl known
      | reversed amountUsd balanceAfter => exact stamping
      | alreadyReversed => exact stamping

theorem Inv.runStamp (inv : Inv stripe opening w) (delivered : event ∈ w.delivered)
    (reached : Reached w.unfrozen (standing w.db.toDb) event .stamping) :
    Inv stripe opening (w.runStamp n event now fate) := by
  refine inv.transact fun _ db h => ?_
  obtain ⟨stamped, hstamped, h⟩ := map_eq_ok.mp h
  cases h
  obtain ⟨ledger, same⟩ := standing_markIntentReversalsApplied hstamped
  have unanchored : Unanchored db := by
    unfold Unanchored
    rw [ledger]
    exact inv.books.unanchored
  have later : Later w.unfrozen w.unfrozen (standing w.db.toDb) (standing db) := by
    rw [same]
    exact later_stamp _
  obtain ⟨refunded, credit, mem, credits, held⟩ := reached
  have ran : Inv stripe opening (w.run (.ok db)) := by
    refine inv.ran unanchored ?_ later
    rw [same]
    refine inv.books.sound.stamp fun tombstone _ waits => ⟨credit, mem, ?_⟩
    rw [waits.1]
    exact credits
  exact ⟨ran, ran.acknowledge delivered fun _ => .inr ⟨credit, later.rows _ mem, credits,
    fun _ => later.refunded refunded, fun dispute => later.held _ (held dispute)⟩⟩

theorem Inv.receive (inv : Inv stripe opening w) {event : StripeEvent}
    (h : w.receive stripe event = some w') : Inv stripe opening w' := by
  unfold World.receive at h
  split at h
  · cases h
    exact inv
  · cases h
    exact inv
  next reversal _ =>
    split at h
    next object =>
      cases h
      refine ⟨⟨inv.books.unanchored, inv.books.sound.deliver reversal, ?_, inv.books.wholeIntents,
        inv.books.wholeTopups⟩, ?_, ?_⟩
      · intro event hevent
        rcases mem_cons.mp hevent with rfl | old
        · exact object
        · exact inv.books.authentic event old
      · intro delivery hdelivery
        rcases mem_cons.mp hdelivery with rfl | old
        · exact ⟨mem_cons_self, trivial⟩
        · obtain ⟨delivered, reached⟩ := inv.deliveries delivery old
          exact ⟨mem_cons_of_mem _ delivered, reached⟩
      · intro event hevent
        obtain ⟨delivered, answered⟩ := inv.acknowledged event hevent
        exact ⟨mem_cons_of_mem _ delivered, answered⟩
    · cases h

/-! ## The other transactions -/

theorem whole_updateWhere {intents intents' : Table stripeAutopayIntentsTable}
    {p : StripeAutopayIntent → Prop} [DecidablePred p]
    {f : StripeAutopayIntent → StripeAutopayIntent} (h : intents.updateWhere p f = .ok intents')
    (keeps : ∀ intent, (f intent).amountUsd = intent.amountUsd)
    (whole : ∀ intent ∈ intents, WholeCents intent.amountUsd) :
    ∀ intent ∈ intents', WholeCents intent.amountUsd := by
  intro intent hintent
  obtain ⟨old, hold, rfl⟩ := (Table.mem_updateWhere h).mp hintent
  unfold Table.rewrite
  split
  · rw [keeps]
    exact whole old hold
  · exact whole old hold

theorem whole_insert {intents intents' : Table stripeAutopayIntentsTable}
    {row : StripeAutopayIntent} (h : intents.insert row = .ok intents')
    (wholeRow : WholeCents row.amountUsd)
    (whole : ∀ intent ∈ intents, WholeCents intent.amountUsd) :
    ∀ intent ∈ intents', WholeCents intent.amountUsd := by
  intro intent hintent
  rcases (Table.mem_insert h).mp hintent with old | rfl
  · exact whole intent old
  · exact wholeRow

theorem topups_updateWhere {settings settings' : Table autopaySettingsTable}
    {f : AutopaySettings → AutopaySettings}
    (h : settings.updateWhere (fun row => row.userId = userId) f = .ok settings')
    (keeps : ∀ row, ∀ topup ∈ (f row).autopayTopupUsd,
      topup ∈ row.autopayTopupUsd ∨ WholeCents topup)
    (whole : ∀ row ∈ settings, ∀ topup ∈ row.autopayTopupUsd, WholeCents topup) :
    ∀ row ∈ settings', ∀ topup ∈ row.autopayTopupUsd, WholeCents topup := by
  intro row hrow topup htopup
  obtain ⟨old, hold, rfl⟩ := (Table.mem_updateWhere h).mp hrow
  unfold Table.rewrite at htopup
  split at htopup
  · exact (keeps old topup htopup).elim (whole old hold topup) id
  · exact whole old hold topup htopup

/-- A credit, in the transaction that also meets what was observed of it. -/
theorem Inv.credited (inv : Inv stripe opening w) {row : CreditLedger}
    {paymentIntent : Option String} (unanchored : Unanchored db)
    (creditable : Creditable stripe row) (enterable : Enterable (standing w.db.toDb) row)
    (names : ∀ paymentIntentId, IsIntent stripe paymentIntentId ∧ row.credits paymentIntentId ↔
      paymentIntent = some paymentIntentId)
    (same : standing db = (standing w.db.toDb).credit now row paymentIntent) :
    Inv stripe opening (w.run (.ok db)) := by
  refine inv.ran unanchored ?_ ?_
  · rw [same]
    exact inv.books.sound.credit inv.books.authentic creditable enterable names
  · rw [same]
    exact later_credit row paymentIntent

theorem Inv.creditPurchase (inv : Inv stripe opening w) {amountUsd : Decimal}
    {stripeSessionId : String} {stripePaymentIntentId : Option String} (whole : WholeCents amountUsd)
    (object : stripe.object stripeSessionId = .session stripePaymentIntentId)
    (intents : ∀ paymentIntentId ∈ stripePaymentIntentId,
      stripe.object paymentIntentId = .paymentIntent (some stripeSessionId)) :
    Inv stripe opening (w.run ((w.db.creditPurchase now userId amountUsd stripeSessionId
      stripePaymentIntentId).map Prod.snd)) := by
  cases h : w.db.creditPurchase now userId amountUsd stripeSessionId stripePaymentIntentId with
  | error _ => exact inv
  | ok result =>
      obtain ⟨outcome, db⟩ := result
      obtain ⟨unanchored, same | ⟨enterable, same⟩⟩ :=
        standing_creditPurchase inv.books.unanchored h
      · refine inv.ran unanchored ?_ ?_
        · rw [same]
          exact inv.books.sound
        · rw [same]
          exact .refl _ _
      · refine inv.credited unanchored ⟨?_, .inl rfl, whole, rfl⟩ enterable ?_ same
        · exact ⟨stripeSessionId, rfl, object, intents⟩
        · intro paymentIntentId
          constructor
          · rintro ⟨⟨session, intent⟩, -, named | named⟩
            · exact named
            · rw [← Option.some.inj named, object] at intent
              cases intent
          · intro named
            exact ⟨⟨_, intents _ named⟩, .inl rfl, .inl named⟩

theorem Inv.post (inv : Inv stripe opening w) {row : CreditLedger} {creditReversal : Bool}
    (other : isOther row) :
    Inv stripe opening (w.run (w.db.moveBalance row.userId creditReversal .rowNotFound row.amountUsd
      fun balanceAfter => { row with balanceAfterUsd := balanceAfter })) := by
  have notStripe : ¬ isStripe row := by
    rintro (purchase | autopay | refund)
    · exact other.1 purchase
    · exact other.2.1 autopay
    · exact other.2.2.1 refund
  cases h : w.db.moveBalance row.userId creditReversal .rowNotFound row.amountUsd
      fun balanceAfter => { row with balanceAfterUsd := balanceAfter } with
  | error _ => exact inv
  | ok db =>
      obtain ⟨balanceAfter, same, -⟩ := standing_moveBalance h
      have same : standing db = standing w.db.toDb := same.trans (if_neg notStripe)
      refine inv.ran (inv.books.unanchored.moveBalance h fun _ _ => other.2.2.2) ?_ ?_
      · rw [same]
        exact inv.books.sound
      · rw [same]
        exact .refl _ _

theorem Inv.freezeAccount (inv : Inv stripe opening w) :
    Inv stripe opening (w.run (w.db.freezeAccount now userId .operator)) := by
  cases h : w.db.freezeAccount now userId .operator with
  | error _ => exact inv
  | ok db =>
      have same := standing_freezeAccount h
      refine inv.ran (inv.books.unanchored.freezeAccount h) ?_ ?_
      · rw [same]
        exact inv.books.sound.freeze fun dispute => nomatch dispute
      · rw [same]
        exact later_freeze _

theorem Inv.unfreezeAccount (inv : Inv stripe opening w) :
    Inv stripe opening
      { w.run (w.db.unfreezeAccount userId) with unfrozen := userId :: w.unfrozen } := by
  have thaws : Later w.unfrozen (userId :: w.unfrozen) (standing w.db.toDb)
      (standing w.db.toDb) :=
    ⟨fun _ h => h, (Later.refl w.unfrozen _).tombstones, fun _ h => h,
      fun _ h => h.imp id (mem_cons_of_mem _)⟩
  cases h : w.db.unfreezeAccount userId with
  | error _ =>
      exact inv.aside ⟨rfl, rfl, rfl, thaws⟩
        ⟨inv.books.unanchored, inv.books.sound.account thaws rfl rfl fun _ => .inl,
          inv.books.authentic, inv.books.wholeIntents, inv.books.wholeTopups⟩
  | ok db =>
      have same := standing_unfreezeAccount h
      have unanchored : Unanchored db := by
        simp only [Db.unfreezeAccount, bind_eq_ok] at h
        obtain ⟨users, -, h⟩ := h
        cases h
        exact inv.books.unanchored
      have later : Later w.unfrozen (userId :: w.unfrozen) (standing w.db.toDb) (standing db) := by
        rw [same]
        exact later_unfreeze
      refine inv.aside ⟨rfl, rfl, rfl, later⟩
        ⟨unanchored, inv.books.sound.account later ?_ ?_ ?_, inv.books.authentic,
          inv.books.wholeIntents, inv.books.wholeTopups⟩
      · exact (congrArg Standing.rows same :)
      · exact (congrArg Standing.tombstones same :)
      · intro other frozen
        change (standing db).account other = _ at frozen
        rw [same] at frozen
        by_cases here : other = userId
        · subst here
          cases account : (standing w.db.toDb).account other <;>
            simp [Standing.unfreeze, account] at frozen
        · exact .inl (by simpa [Standing.unfreeze, Function.update_of_ne here] using frozen)

/-- What only the rest of the history tells apart. -/
theorem Inv.congr (inv : Inv stripe opening w) (db : w'.db = w.db)
    (deliveries : w'.deliveries = w.deliveries) (delivered : w'.delivered = w.delivered)
    (acknowledged : w'.acknowledged = w.acknowledged) (unfrozen : w'.unfrozen = w.unfrozen) :
    Inv stripe opening w' := by
  obtain ⟨⟩ := w
  obtain ⟨⟩ := w'
  dsimp only at db deliveries delivered acknowledged unfrozen
  subst db deliveries delivered acknowledged unfrozen
  exact ⟨⟨inv.books.unanchored, inv.books.sound, inv.books.authentic, inv.books.wholeIntents,
    inv.books.wholeTopups⟩, inv.deliveries, inv.acknowledged⟩

/-- A transaction on autopay's own tables. -/
theorem Inv.autopay (inv : Inv stripe opening w) {db : AutopayDb} (money : db.toDb = w.db.toDb)
    (wholeIntents : ∀ intent ∈ db.stripeAutopayIntents, WholeCents intent.amountUsd)
    (wholeTopups : ∀ row ∈ db.autopaySettings, ∀ topup ∈ row.autopayTopupUsd, WholeCents topup) :
    Inv stripe opening { w with db } := by
  refine inv.aside ⟨rfl, rfl, rfl, ?_⟩ ⟨?_, ?_, inv.books.authentic, wholeIntents, wholeTopups⟩
  · rw [money]
    exact .refl _ _
  · rw [money]
    exact inv.books.unanchored
  · rw [money]
    exact inv.books.sound

theorem Inv.runAutopay (inv : Inv stripe opening w) {result : Except SqlError AutopayDb}
    (commits : ∀ db, result = .ok db → Inv stripe opening { w with db }) :
    Inv stripe opening (w.runAutopay result) := by
  cases result with
  | error _ => exact inv
  | ok db => exact commits db rfl

/-- An update of intents that moves no amount. -/
theorem Inv.updateIntents (inv : Inv stripe opening w) {p : StripeAutopayIntent → Prop}
    [DecidablePred p] {f : StripeAutopayIntent → StripeAutopayIntent} {result : Nat × AutopayDb}
    (h : w.db.updateIntents p f = .ok result)
    (keeps : ∀ intent, (f intent).amountUsd = intent.amountUsd) :
    Inv stripe opening { w with db := result.2 } := by
  obtain ⟨intents, hintents, -, hdb⟩ := updateIntents_ok h
  rw [hdb]
  exact inv.autopay rfl (whole_updateWhere hintents keeps inv.books.wholeIntents)
    inv.books.wholeTopups

theorem Inv.insertUnlessConflict (inv : Inv stripe opening w) {row : StripeAutopayIntent}
    {result : Bool × AutopayDb} (whole : WholeCents row.amountUsd)
    (h : w.db.insertUnlessConflict row = .ok result) :
    Inv stripe opening { w with db := result.2 } := by
  rcases insertUnlessConflict_ok h with hdb | ⟨intents, hintents, hdb⟩
  · rw [hdb]
    exact inv
  · rw [hdb]
    exact inv.autopay rfl (whole_insert hintents whole inv.books.wholeIntents)
      inv.books.wholeTopups

theorem Inv.runClaim (inv : Inv stripe opening w) {amountUsd chargeAmountUsd : Decimal} :
    Inv stripe opening (w.runClaim now userId amountUsd chargeAmountUsd idempotencyKey) := by
  have claims : Inv stripe opening (w.runAutopay ((w.db.claimAutopayAttempt now userId amountUsd
      chargeAmountUsd idempotencyKey).map Prod.snd)) := by
    refine inv.runAutopay fun db h => ?_
    obtain ⟨result, hclaim, rfl⟩ := map_eq_ok.mp h
    unfold claimAutopayAttempt at hclaim
    split at hclaim
    next claimable =>
      obtain ⟨_, _, _, settings, hsettings, _, _, topup, _⟩ := claimable
      exact inv.insertUnlessConflict (inv.books.wholeTopups settings hsettings amountUsd topup)
        hclaim
    · cases hclaim
      exact inv
  exact claims.congr rfl rfl rfl rfl rfl

theorem Inv.runRename (inv : Inv stripe opening w) :
    Inv stripe opening (w.runRename now idempotencyKey paymentIntentId) := by
  have renames : ∀ result, w.db.renameClaim now idempotencyKey paymentIntentId = .ok result →
      Inv stripe opening { w with db := result.2 } := by
    intro result h
    unfold renameClaim at h
    exact inv.updateIntents h fun _ => rfl
  unfold World.runRename
  split
  next db h => exact (renames _ h).congr rfl rfl rfl rfl rfl
  next h => exact renames _ h
  · exact inv

theorem Inv.runDrop (inv : Inv stripe opening w) :
    Inv stripe opening (w.runDrop idempotencyKey) := by
  have drops : Inv stripe opening { w with db := w.db.dropClaim idempotencyKey } := by
    refine inv.autopay rfl (fun intent h => ?_) inv.books.wholeTopups
    exact inv.books.wholeIntents intent (Table.mem_deleteWhere.mp h).1
  exact drops.congr rfl rfl rfl rfl rfl

theorem Inv.runFail (inv : Inv stripe opening w) :
    Inv stripe opening (w.runFail now paymentIntentId) := by
  unfold World.runFail
  split
  next db h =>
    have fails : Inv stripe opening { w with db } := by
      rcases failAutopayIntent_ok h with ⟨moved, -⟩ | ⟨-, intent, -, -, intents, settings, hintents,
        hsettings, rfl⟩
      · cases moved
      · exact inv.autopay rfl (whole_updateWhere hintents (fun _ => rfl) inv.books.wholeIntents)
          (topups_updateWhere hsettings (fun _ _ => .inl) inv.books.wholeTopups)
    split
    · exact fails.congr rfl rfl rfl rfl rfl
    · exact fails
  · exact inv

theorem Inv.runArm (inv : Inv stripe opening w) {thresholdUsd topupUsd : Decimal} {hasCard : Bool} :
    Inv stripe opening (w.runArm bounds userId thresholdUsd topupUsd hasCard) := by
  unfold World.runArm
  split
  next db h =>
    rcases armAutopay_ok h with ⟨armed, -⟩ | ⟨-, admits, settings, hsettings, rfl⟩
    · cases armed
    · have arms : Inv stripe opening { w with
          db := { w.db with autopaySettings := settings } } := by
        refine inv.autopay rfl inv.books.wholeIntents
          (topups_updateWhere hsettings (fun _ topup h => .inr ?_) inv.books.wholeTopups)
        rw [← Option.some.inj h]
        exact admits.2.2
      exact arms.congr rfl rfl rfl rfl rfl
  · exact inv

/-- A settlement of one of the rows. -/
theorem Inv.settles (inv : Inv stripe opening w) {outcome : AutopayOutcome} {db : AutopayDb}
    (object : stripe.object paymentIntentId = .paymentIntent none)
    (h : Settles w.db now paymentIntentId outcome db) : Inv stripe opening { w with db } := by
  cases h with
  | alreadySettled => exact inv
  | unknown => exact inv
  | @withheld intent succeeded intents mem pending moved disarmed held =>
      refine inv.autopay rfl ?_ inv.books.wholeTopups
      exact whole_updateWhere held (fun _ => rfl)
        (whole_updateWhere moved (fun _ => rfl) inv.books.wholeIntents)
  | @credited intent intents settings money mem pending moved credited =>
      obtain ⟨db, hmoved, hmoney⟩ := credited.paid
      obtain ⟨unanchored, enterable, same⟩ :=
        standing_autopayCredit inv.books.unanchored hmoved hmoney
      rw [pending.1] at enterable same
      have creditable : Creditable stripe
          (autopayEntry intent.userId intent.amountUsd paymentIntentId 0) :=
        ⟨⟨rfl, paymentIntentId, rfl, object⟩, .inr rfl, inv.books.wholeIntents intent mem, rfl⟩
      have pays : Inv stripe opening (w.run (.ok money)) := by
        refine inv.credited unanchored creditable enterable (fun other => ?_) same
        constructor
        · rintro ⟨-, -, named | named⟩
          · cases named
          · exact named
        · intro named
          rw [← Option.some.inj named]
          exact ⟨⟨none, object⟩, .inr rfl, .inr rfl⟩
      exact pays.autopay rfl (whole_updateWhere moved (fun _ => rfl) inv.books.wholeIntents)
        (topups_updateWhere credited.reset (fun _ _ => .inl) inv.books.wholeTopups)

theorem Inv.runSettle (inv : Inv stripe opening w)
    {recovered : Option (Uuid × Decimal × Decimal)}
    (object : stripe.object paymentIntentId = .paymentIntent none)
    (whole : ∀ collected ∈ recovered, WholeCents collected.2.1) :
    Inv stripe opening (w.runSettle now paymentIntentId recovered) := by
  have settles : ∀ answer db, w.db.settleAutopayIntent now paymentIntentId recovered =
      .ok (answer, db) → Inv stripe opening { w with db } := by
    intro answer db h
    have recovers : ∀ collected recoveredDb, WholeCents collected.2.1 →
        w.db.recoverIntent now paymentIntentId collected = .ok recoveredDb →
        Inv stripe opening { w with db := recoveredDb } := by
      intro collected recoveredDb wholeRow h
      rcases recoverIntent_ok h with ⟨-, rfl⟩ | ⟨-, intents, hintents, rfl⟩
      · exact inv
      · exact inv.autopay rfl (whole_insert hintents wholeRow inv.books.wholeIntents)
          inv.books.wholeTopups
    cases settleAutopayIntent_ok h with
    | stored settles => exact inv.settles object settles
    | agreed hrecovers mem id agrees settles =>
        exact (recovers _ _ (whole _ rfl) hrecovers).settles object settles
    | disagreed hrecovers mem id disagrees failed =>
        have inv' := recovers _ _ (whole _ rfl) hrecovers
        exact inv'.autopay rfl
          (whole_updateWhere failed (fun _ => rfl) inv'.books.wholeIntents) inv'.books.wholeTopups
  unfold World.runSettle
  split
  next db h =>
    split
    · exact (settles _ _ h).congr rfl rfl rfl rfl rfl
    · exact settles _ _ h
  next h => exact settles _ _ h
  · exact inv

theorem Inv.step (inv : Inv stripe opening w) {action : Action}
    (h : step stripe bounds w action = some w') : Inv stripe opening w' := by
  unfold Billing.step at h
  split at h
  next genuine =>
    have here : ∀ {n : Nat} {event : ReversalEvent} {stage : Stage},
        w.deliveries[n]? = some { event, stage } → event ∈ w.delivered ∧
          Reached w.unfrozen (standing w.db.toDb) event stage :=
      fun found => inv.deliveries _ (mem_of_getElem? found)
    cases action with
    | creditPurchase now userId amountUsd stripeSessionId stripePaymentIntentId =>
        cases h
        exact inv.creditPurchase genuine.1 genuine.2.1 genuine.2.2
    | post row creditReversal =>
        cases h
        exact inv.post genuine
    | freezeAccount now userId =>
        cases h
        exact inv.freezeAccount
    | unfreezeAccount userId =>
        cases h
        exact inv.unfreezeAccount
    | deliver event =>
        dsimp only at h
        split at h
        · exact inv.receive h
        · cases h
    | resolve n now fate =>
        dsimp only at h
        split at h
        next found =>
          obtain rfl := Option.some.inj h
          exact inv.runResolve (here found).1
        · cases h
    | freeze n now fate =>
        dsimp only at h
        split at h
        next found =>
          obtain rfl := Option.some.inj h
          obtain ⟨delivered, mem, credits, dispute⟩ := here found
          exact inv.runFreeze delivered mem credits dispute
        · cases h
    | reverse n fate =>
        dsimp only at h
        split at h
        next found =>
          obtain rfl := Option.some.inj h
          obtain ⟨delivered, mem, credits, covers, held⟩ := here found
          exact inv.runReverse delivered mem credits covers held
        · cases h
    | stamp n now fate =>
        dsimp only at h
        split at h
        next found =>
          obtain rfl := Option.some.inj h
          obtain ⟨delivered, reached⟩ := here found
          exact inv.runStamp delivered reached
        · cases h
    | crash n =>
        cases h
        exact inv.fail n
    | armAutopay userId thresholdUsd topupUsd hasCard =>
        cases h
        exact inv.runArm
    | disarmAutopay userId =>
        cases h
        refine inv.runAutopay fun db h => ?_
        obtain ⟨settings, hsettings, rfl⟩ := updateSettings_ok h
        exact inv.autopay rfl inv.books.wholeIntents
          (topups_updateWhere hsettings (fun _ _ => .inl) inv.books.wholeTopups)
    | claimAutopayAttempt now userId amountUsd chargeAmountUsd idempotencyKey =>
        dsimp only at h
        split at h
        · cases h
        · cases h
          exact inv.runClaim
    | renameClaim now idempotencyKey paymentIntentId =>
        cases h
        exact inv.runRename
    | dropClaim idempotencyKey =>
        dsimp only at h
        split at h
        · cases h
          exact inv.runDrop
        · cases h
    | freezeAutopayTax now paymentIntentId taxUsd calculationId =>
        cases h
        refine inv.runAutopay fun db h => ?_
        obtain ⟨result, hresult, rfl⟩ := map_eq_ok.mp h
        unfold AutopayDb.freezeAutopayTax at hresult
        exact inv.updateIntents hresult fun _ => rfl
    | settleAutopayIntent now paymentIntentId recovered =>
        cases h
        exact inv.runSettle genuine.1 genuine.2
    | failAutopayIntent now paymentIntentId =>
        cases h
        exact inv.runFail
    | recordAutopayCharge now paymentIntentId userId amountUsd chargeAmountUsd =>
        cases h
        refine inv.runAutopay fun db h => ?_
        simp only [AutopayDb.recordAutopayCharge, bind_eq_ok] at h
        obtain ⟨result, hresult, h⟩ := h
        cases h
        exact inv.insertUnlessConflict genuine.2 hresult
  · cases h

/-- The invariant holds after every run. -/
theorem Inv.run (inv : Inv stripe opening w) {C : World → Action → Prop}
    (run : Reaches stripe bounds C w w') : Inv stripe opening w' :=
  run.invariant inv fun _ _ _ inv _ next => inv.step next

end Steps

end ZeroRouter.Billing
