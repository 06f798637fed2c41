import ZeroRouter.Proofs.Balances
import ZeroRouter.Proofs.Reversal

/-!
# Credits and reversals converge

A credit and the events that name its intent, in every order: what is left does not
depend on the order, but for the wording of the refund's row.
-/

namespace ZeroRouter.Billing

open Transition List Relational

variable {events : List ReversalEvent} {row : CreditLedger} {note : String} {w : World}
  {event : ReversalEvent} {db : Db} {user : User} {userId : Uuid} {ledger : Table creditLedgerTable}
  {other : CreditLedger}

/-! ## What converging is -/

/-- A database before the first of Stripe's credits, and nothing in flight. -/
structure World.Opening (w : World) : Prop where
  ledger : ∀ row ∈ w.db.creditLedger, isOther row
  tombstones : w.db.stripeObservedReversals.rows = []
  intents : w.db.stripeAutopayIntents.rows = []
  topups : ∀ settings ∈ w.db.autopaySettings, ∀ topup ∈ settings.autopayTopupUsd, WholeCents topup
  deliveries : w.deliveries = []
  delivered : w.delivered = []
  acknowledged : w.acknowledged = []

/-- The largest amount reported of an object. -/
def largestReported (events : List ReversalEvent) (objectId : String) : Option Int :=
  (events.filter fun event => event.objectId = objectId).foldr
    (fun event largest => greatestCents event.reversedCents largest) none

/-- Some object of the intent has reported, in dollars, at least the credit. -/
def Covered (events : List ReversalEvent) (paymentIntentId : String) (creditedUsd : Decimal) :
    Prop :=
  ∃ event ∈ events, event.paymentIntent = paymentIntentId ∧
    event.currency = some checkoutCurrency ∧
    ∃ credited, usdToCents creditedUsd = some (some credited) ∧
      ∃ largest ∈ largestReported events event.objectId, credited ≤ largest

namespace World

/-- Every event that names the intent has been acknowledged. -/
def Settled (w : World) (paymentIntentId : String) : Prop :=
  ∀ event ∈ w.delivered, event.paymentIntent = paymentIntentId → event ∈ w.acknowledged

def Refunded (w : World) (paymentIntentId : String) : Prop :=
  ∃ row ∈ w.db.creditLedger, row.refunds paymentIntentId

instance (w : World) (paymentIntentId : String) : Decidable (w.Refunded paymentIntentId) :=
  inferInstanceAs (Decidable (∃ _ ∈ _, _))

/-- Frozen, or thawed by an operator. -/
def Held (w : World) (userId : Uuid) : Prop :=
  (∃ user ∈ w.db.users, user.id = userId ∧ user.frozenAt ≠ none) ∨ userId ∈ w.unfrozen

/-- What a user's ledger says of everything but one intent. -/
def others (w : World) (paymentIntentId : String) (userId : Uuid) : Decimal :=
  sumWhere
    (fun row => row.userId = userId ∧ ¬ row.credits paymentIntentId ∧
      ¬ row.refunds paymentIntentId)
    CreditLedger.amountUsd w.db.creditLedger.rows

/-- In no committed state can a credit be spent whose covering reversal has been recorded
    or acknowledged, nor is an account live that was disputed. -/
structure Guarded (w : World) (paymentIntentId : String) (credit : CreditLedger) : Prop where
  recorded : ∀ tombstone ∈ w.db.stripeObservedReversals,
    tombstone.paymentIntentId = paymentIntentId →
      (tombstone.covers credit.amountUsd → w.Refunded paymentIntentId) ∧
        (tombstone.isDispute = true → w.Held credit.userId)
  acknowledged : ∀ event ∈ w.acknowledged, event.paymentIntent = paymentIntentId →
    (event.coversTheCredit credit.amountUsd = some true → w.Refunded paymentIntentId) ∧
      (event.isDispute = true → w.Held credit.userId)

/-- Only a dispute of a credit of theirs freezes a user for one. -/
def FrozenByDisputes (opening w : World) : Prop :=
  ∀ user ∈ w.db.users, user.frozenReason = some .dispute →
    (∃ before ∈ opening.db.users, before.id = user.id ∧ before.frozenReason = some .dispute) ∨
      ∃ event ∈ w.delivered, event.isDispute = true ∧
        ∃ credit ∈ w.db.creditLedger, credit.credits event.paymentIntent ∧ credit.userId = user.id

/-- What is left once the events are acknowledged. -/
structure Converged (opening w : World) (paymentIntentId : String) (credit : CreditLedger) :
    Prop where
  refunded : w.Refunded paymentIntentId ↔ Covered w.delivered paymentIntentId credit.amountUsd
  once : countWhere (fun row => row.refunds paymentIntentId) w.db.creditLedger.rows ≤ 1
  amount : ∀ row ∈ w.db.creditLedger, row.refunds paymentIntentId →
    row.userId = credit.userId ∧ row.amountUsd = -credit.amountUsd
  frozen : (∃ event ∈ w.delivered, event.paymentIntent = paymentIntentId ∧
    event.isDispute = true) → w.Held credit.userId
  balance : ∀ user ∈ w.db.users, user.id = credit.userId →
    ∃ before ∈ unexplained opening.db.toDb credit.userId,
      user.creditBalanceUsd = before + w.others paymentIntentId credit.userId +
        if w.Refunded paymentIntentId then 0 else credit.amountUsd

/-- Two runs leave the same of an intent: its refund, but for the object it is anchored on
    and the wording of its note, and the balance, but for what else moved it. -/
structure SameOutcome (w w' : World) (paymentIntentId : String) (userId : Uuid) : Prop where
  refund : ∀ row ∈ w.db.creditLedger, row.refunds paymentIntentId →
    ∃ row' ∈ w'.db.creditLedger, row'.refunds paymentIntentId ∧ row'.userId = row.userId ∧
      row'.amountUsd = row.amountUsd
  refund' : ∀ row' ∈ w'.db.creditLedger, row'.refunds paymentIntentId →
    ∃ row ∈ w.db.creditLedger, row.refunds paymentIntentId ∧ row'.userId = row.userId ∧
      row'.amountUsd = row.amountUsd
  balance : ∀ user ∈ w.db.users, user.id = userId → ∀ user' ∈ w'.db.users, user'.id = userId →
    user.creditBalanceUsd - w.others paymentIntentId userId =
      user'.creditBalanceUsd - w'.others paymentIntentId userId

end World

/-! ## The largest amount reported -/

theorem mem_of_largest {largest : Int}
    (h : events.foldr (fun event largest => greatestCents event.reversedCents largest) none =
      some largest) : ∃ event ∈ events, event.reversedCents = some largest := by
  induction events with
  | nil => cases h
  | cons first rest ih =>
      rw [foldr_cons] at h
      rcases (greatestCents_eq first.reversedCents (rest.foldr (fun event largest =>
        greatestCents event.reversedCents largest) none)).1 with new | kept
      · exact ⟨first, mem_cons_self, new.symm.trans h⟩
      · obtain ⟨event, mem, same⟩ := ih (kept.symm.trans h)
        exact ⟨event, mem_cons_of_mem _ mem, same⟩

theorem largest_noLess (h : event ∈ events) :
    NoLess (events.foldr (fun event largest => greatestCents event.reversedCents largest) none)
      event.reversedCents := by
  induction events with
  | nil => cases h
  | cons first rest ih =>
      rw [foldr_cons]
      obtain ⟨-, first', rest'⟩ := greatestCents_eq first.reversedCents (rest.foldr
        (fun event largest => greatestCents event.reversedCents largest) none)
      rcases mem_cons.mp h with rfl | later
      · exact first'
      · exact rest'.trans (ih later)

section Converge

variable {stripe : StripeObjects} {opening w w' : World} {paymentIntentId : String}
  {credit : CreditLedger} {before : Standing}

/-- The largest report covers a credit when some report does. -/
theorem covered_iff {creditedUsd : Decimal} (authentic : ∀ event ∈ events, Authentic stripe event)
    (whole : WholeCents creditedUsd) :
    Covered events paymentIntentId creditedUsd ↔
      ∃ event ∈ events, event.paymentIntent = paymentIntentId ∧ event.covers creditedUsd := by
  constructor
  · rintro ⟨event, hevent, intent, currency, credited, hcredited, largest, hlargest, enough⟩
    obtain ⟨report, hreport, cents⟩ := mem_of_largest hlargest
    obtain ⟨mem, same⟩ := mem_filter.mp hreport
    have object := authentic event hevent
    have object' := authentic report mem
    unfold Authentic at object object'
    rw [of_decide_eq_true same, object, StripeObject.reversal.injEq] at object'
    refine ⟨report, mem, object'.1.symm.trans intent, object'.2.2.symm.trans currency, largest,
      cents, ?_⟩
    rw [floor_of_usdToCents hcredited]
    exact enough
  · rintro ⟨event, hevent, intent, currency, cents, hcents, enough⟩
    obtain ⟨credited, hcredited⟩ := whole
    rw [floor_of_usdToCents hcredited] at enough
    have mem : event ∈ events.filter fun other => other.objectId = event.objectId :=
      mem_filter.mpr ⟨hevent, decide_eq_true rfl⟩
    obtain ⟨largest, hlargest, grows⟩ := largest_noLess mem cents hcents
    exact ⟨event, hevent, intent, currency, credited, hcredited, largest, hlargest,
      enough.trans grows⟩

/-! ## From the standing to the tables -/

theorem World.Opening.inv (opening : w.Opening) : Inv stripe (standing w.db.toDb) w := by
  have rows : (standing w.db.toDb).rows = [] := by
    unfold standing
    rw [map_eq_nil_iff, filter_eq_nil_iff]
    intro row hrow stripe
    obtain ⟨purchase, autopay, refund, -⟩ := opening.ledger row hrow
    rcases of_decide_eq_true stripe with h | h | h
    · exact purchase h
    · exact autopay h
    · exact refund h
  have tombstones : (standing w.db.toDb).tombstones = [] := opening.tombstones
  refine ⟨⟨fun row hrow _ => (opening.ledger row hrow).2.2.2, ?_, ?_, ?_, opening.topups⟩, ?_, ?_⟩
  · exact
      { anchored := by simp [rows]
        whole := by simp [rows]
        known := by simp [rows]
        anchors := by simp [rows]
        once := by simp [rows]
        taken := by simp [rows]
        distinct := by simp [tombstones]
        recorded := by simp [tombstones]
        early := by simp [tombstones]
        met := by simp [tombstones]
        frozen := fun _ => .inl }
  · simp [opening.delivered]
  · intro intent hintent
    rw [Table.mem_def, opening.intents] at hintent
    cases hintent
  · simp [opening.deliveries]
  · simp [opening.acknowledged]

theorem account_of_mem (h : user ∈ db.users) :
    (standing db).account user.id = some user.frozenReason := by
  have found : db.users.find (fun row => row.id = user.id) = some user :=
    Table.find_of_mem h rfl fun _ _ ha hb => ha.trans hb.symm
  show (db.users.find fun row => row.id = user.id).map User.frozenReason = _
  rw [found]
  rfl

theorem mem_of_account {reason : Option FrozenReason}
    (h : (standing db).account userId = some reason) :
    ∃ user ∈ db.users, user.id = userId ∧ user.frozenReason = reason := by
  obtain ⟨user, found, frozen⟩ := Option.map_eq_some_iff.mp h
  obtain ⟨mem, id⟩ := Table.find_some found
  exact ⟨user, mem, id, frozen⟩

theorem World.Held.of_standing (h : (standing w.db.toDb).held w.unfrozen userId) :
    w.Held userId := by
  rcases h with ⟨reason, account⟩ | thawed
  · obtain ⟨user, mem, id, frozen⟩ := mem_of_account account
    refine .inl ⟨user, mem, id, fun live => ?_⟩
    rw [(frozen_iff mem).mp live] at frozen
    cases frozen
  · exact .inr thawed

theorem refunded_iff :
    w.Refunded paymentIntentId ↔ (standing w.db.toDb).refunded paymentIntentId := by
  constructor
  · rintro ⟨row, hrow, refunds⟩
    exact ⟨unsnapped row, mem_rows hrow (isStripe_of_refunds refunds), refunds⟩
  · rintro ⟨row, hrow, refunds⟩
    obtain ⟨full, hfull, -, rfl⟩ := of_mem_rows hrow
    exact ⟨full, hfull, refunds⟩

/-- An answered event has had its effect on a credit that is there. -/
theorem Inv.effect (inv : Inv stripe before w) (intent : IsIntent stripe paymentIntentId)
    (mem : credit ∈ w.db.creditLedger) (credits : credit.credits paymentIntentId)
    (hevent : event ∈ w.acknowledged) (names : event.paymentIntent = paymentIntentId) :
    (event.covers credit.amountUsd → w.Refunded paymentIntentId) ∧
      (event.isDispute = true → w.Held credit.userId) := by
  subst names
  have hcredit := mem_rows mem (isStripe_of_credits credits)
  obtain ⟨delivered, answered⟩ := inv.acknowledged event hevent
  rw [refunded_iff]
  rcases answered intent with ⟨tombstone, ht, same, noLess⟩ | ⟨other, hother, credits', taken, held⟩
  · obtain ⟨report, hreport, recorded⟩ := inv.books.sound.recorded tombstone ht
    have object := inv.books.authentic event delivered
    have object' := inv.books.authentic report hreport
    unfold Authentic at object object'
    rw [recorded.objectId, same, object, StripeObject.reversal.injEq] at object'
    obtain ⟨intent', dispute', currency'⟩ := object'
    have isIntent : tombstone.paymentIntentId = event.paymentIntent := by
      rw [← recorded.paymentIntent, intent']
    have met := inv.books.sound.met tombstone ht (isIntent.symm ▸ intent) not_mem_nil
      (unsnapped credit) hcredit (isIntent.symm ▸ credits)
    rw [isIntent] at met
    constructor
    · rintro ⟨currency, cents, hcents, enough⟩
      obtain ⟨cents', hcents', grows⟩ := noLess cents hcents
      refine met.1 ⟨?_, cents', hcents', enough.trans grows⟩
      rw [← recorded.currency, ← currency', currency]
    · intro dispute
      refine .of_standing (met.2 ?_)
      rw [← recorded.isDispute, ← dispute', dispute]
  · have isCredit : other = unsnapped credit :=
      inv.books.sound.unique hother hcredit credits' credits
    subst isCredit
    exact ⟨taken, fun dispute => .of_standing (held dispute)⟩

theorem Inv.whole (inv : Inv stripe before w) (mem : credit ∈ w.db.creditLedger)
    (credits : credit.credits paymentIntentId) : WholeCents credit.amountUsd := by
  refine inv.books.sound.whole (unsnapped credit) (mem_rows mem (isStripe_of_credits credits))
    fun refund => ?_
  rcases credits.1 with purchase | autopay
  · exact absurd (purchase.symm.trans refund) (by decide)
  · exact absurd (autopay.symm.trans refund) (by decide)

theorem Inv.guarded (inv : Inv stripe before w) (intent : IsIntent stripe paymentIntentId)
    (mem : credit ∈ w.db.creditLedger) (credits : credit.credits paymentIntentId) :
    w.Guarded paymentIntentId credit := by
  constructor
  · rintro tombstone ht rfl
    have met := inv.books.sound.met tombstone ht intent not_mem_nil (unsnapped credit)
      (mem_rows mem (isStripe_of_credits credits)) credits
    rw [refunded_iff]
    exact ⟨met.1, fun dispute => .of_standing (met.2 dispute)⟩
  · intro event hevent names
    obtain ⟨taken, held⟩ := inv.effect intent mem credits hevent names
    refine ⟨fun covers => taken ?_, held⟩
    rw [coversTheCredit_eq (inv.whole mem credits)] at covers
    exact of_decide_eq_true (Option.some.inj covers)

theorem Inv.frozenByDisputes (inv : Inv stripe (standing opening.db.toDb) w) :
    World.FrozenByDisputes opening w := by
  intro user huser frozen
  have account : (standing w.db.toDb).account user.id = some (some .dispute) := by
    rw [account_of_mem huser, frozen]
  rcases inv.books.sound.frozen user.id account with earlier | ⟨event, delivered, dispute, row, hrow,
    credits, holder⟩
  · exact .inl (mem_of_account earlier)
  · obtain ⟨full, hfull, -, rfl⟩ := of_mem_rows hrow
    exact .inr ⟨event, delivered, dispute, full, hfull, credits, holder⟩

/-! ## One refund -/

theorem Inv.once (inv : Inv stripe before w) :
    countWhere (fun row => row.refunds paymentIntentId) w.db.creditLedger.rows ≤ 1 := by
  have same : (standing w.db.toDb).rows.countP (fun row => row.refunds paymentIntentId) =
      countWhere (fun row => row.refunds paymentIntentId) w.db.creditLedger.rows := by
    unfold standing countWhere
    rw [countP_map, countP_filter]
    refine countP_congr fun row _ => ?_
    simp only [Function.comp_apply, Bool.and_eq_true, decide_eq_true_eq]
    exact ⟨And.left, fun refunds => ⟨refunds, isStripe_of_refunds refunds⟩⟩
  rw [← same]
  exact inv.books.sound.once paymentIntentId

/-- A row of the ledger with the anchor of another is that row. -/
theorem eq_of_anchor {a b : CreditLedger} {anchor : String} (ha : a ∈ ledger) (hb : b ∈ ledger)
    (anchorA : a.stripeSessionId = some anchor) (anchorB : b.stripeSessionId = some anchor) :
    a = b := by
  refine ledger.eq_of_clash ha hb (.inl ⟨?_, anchorA.trans anchorB.symm⟩)
  rw [anchorA]
  exact Option.some_ne_none anchor

theorem Inv.anchor (inv : Inv stripe before w) (mem : credit ∈ w.db.creditLedger)
    (credits : credit.credits paymentIntentId) :
    credit.stripeSessionId = some (anchorOf stripe paymentIntentId) :=
  (anchor_of_credits (inv.books.sound.anchored (unsnapped credit)
    (mem_rows mem (isStripe_of_credits credits))) credits :)

/-- The credits of an intent are its one credit. -/
theorem Inv.credit_eq (inv : Inv stripe before w) (mem : credit ∈ w.db.creditLedger)
    (credits : credit.credits paymentIntentId) (mem' : other ∈ w.db.creditLedger)
    (credits' : other.credits paymentIntentId) :
    other = credit := by
  exact eq_of_anchor mem' mem (inv.anchor mem' credits') (inv.anchor mem credits)

/-- The refunds of an intent are one. -/
theorem Inv.refund_eq (inv : Inv stripe before w) (mem : row ∈ w.db.creditLedger)
    (refunds : row.refunds paymentIntentId) (mem' : other ∈ w.db.creditLedger)
    (refunds' : other.refunds paymentIntentId) :
    other = row := by
  have once : (w.db.creditLedger.rows.filter fun row => row.refunds paymentIntentId).length ≤ 1 := by
    rw [← countP_eq_length_filter]
    exact inv.once
  have a : row ∈ w.db.creditLedger.rows.filter fun row => row.refunds paymentIntentId :=
    mem_filter.mpr ⟨mem, decide_eq_true refunds⟩
  have b : other ∈ w.db.creditLedger.rows.filter fun row => row.refunds paymentIntentId :=
    mem_filter.mpr ⟨mem', decide_eq_true refunds'⟩
  match rows : w.db.creditLedger.rows.filter fun row => row.refunds paymentIntentId with
  | [] => simp [rows] at a
  | [only] =>
      rw [rows, mem_singleton] at a b
      rw [a, b]
  | _ :: _ :: _ =>
      rw [rows] at once
      simp at once

/-- A refund is of the credit's user and takes all of it. -/
theorem Inv.amount (inv : Inv stripe before w) (mem : credit ∈ w.db.creditLedger)
    (credits : credit.credits paymentIntentId) (hrow : row ∈ w.db.creditLedger)
    (refunds : row.refunds paymentIntentId) :
    row.userId = credit.userId ∧ row.amountUsd = -credit.amountUsd := by
  obtain ⟨other, hother, credits', user, amount, -⟩ := inv.books.sound.taken (unsnapped row)
    (mem_rows hrow (isStripe_of_refunds refunds)) paymentIntentId refunds
  have isCredit : other = unsnapped credit := inv.books.sound.unique hother
    (mem_rows mem (isStripe_of_credits credits)) credits' credits
  rw [isCredit] at user amount
  exact ⟨user, amount⟩

theorem Inv.refunded (inv : Inv stripe before w) (settled : w.Settled paymentIntentId)
    (intent : IsIntent stripe paymentIntentId) (mem : credit ∈ w.db.creditLedger)
    (credits : credit.credits paymentIntentId) :
    w.Refunded paymentIntentId ↔ Covered w.delivered paymentIntentId credit.amountUsd := by
  rw [covered_iff inv.books.authentic (inv.whole mem credits)]
  constructor
  · rintro ⟨row, hrow, refunds⟩
    obtain ⟨other, hother, credits', -, -, event, hevent, names, covers⟩ :=
      inv.books.sound.taken (unsnapped row) (mem_rows hrow (isStripe_of_refunds refunds))
        paymentIntentId refunds
    have isCredit : other = unsnapped credit := inv.books.sound.unique hother
      (mem_rows mem (isStripe_of_credits credits)) credits' credits
    rw [isCredit] at covers
    exact ⟨event, hevent, names, covers⟩
  · rintro ⟨event, hevent, names, covers⟩
    exact (inv.effect intent mem credits (settled event hevent names) names).1 covers

/-! ## The balance -/

/-- A sum over rows that are the one with an anchor. -/
theorem sum_of_anchor {p : CreditLedger → Prop} [DecidablePred p] {anchor : String}
    (mem : row ∈ ledger) (here : p row) (anchored : row.stripeSessionId = some anchor)
    (only : ∀ other ∈ ledger, p other → other = row) :
    sumWhere p CreditLedger.amountUsd ledger.rows = row.amountUsd := by
  have key : ∀ a b : CreditLedger, a.stripeSessionId = some anchor →
      b.stripeSessionId = some anchor → creditLedgerTable.clash a b :=
    fun a b ha hb => .inl ⟨by simp [ha], ha.trans hb.symm⟩
  rw [← Table.sumWhere_key (f := CreditLedger.amountUsd) mem anchored key]
  refine sumWhere_congr (fun other hother => ⟨fun satisfies => ?_, fun same => ?_⟩) fun _ _ _ => rfl
  · rw [only other hother satisfies]
    exact anchored
  · rw [eq_of_anchor hother mem same anchored]
    exact here

/-- A user's rows are the intent's credit and refund, and the others. -/
theorem Inv.ledger_sum (inv : Inv stripe before w) (mem : credit ∈ w.db.creditLedger)
    (credits : credit.credits paymentIntentId) :
    sumWhere (fun row => row.userId = credit.userId) CreditLedger.amountUsd
        w.db.creditLedger.rows =
      w.others paymentIntentId credit.userId +
        if w.Refunded paymentIntentId then 0 else credit.amountUsd := by
  have ofCredit : sumWhere (fun row => row.userId = credit.userId ∧ row.credits paymentIntentId)
      CreditLedger.amountUsd w.db.creditLedger.rows = credit.amountUsd :=
    sum_of_anchor mem ⟨rfl, credits⟩ (inv.anchor mem credits) fun _ hother both =>
      inv.credit_eq mem credits hother both.2
  have ofRefund : sumWhere (fun row => (row.userId = credit.userId ∧ ¬ row.credits paymentIntentId) ∧
      row.refunds paymentIntentId) CreditLedger.amountUsd w.db.creditLedger.rows =
        if w.Refunded paymentIntentId then -credit.amountUsd else 0 := by
    split
    next refunded =>
      obtain ⟨row, hrow, refunds⟩ := refunded
      obtain ⟨user, amount⟩ := inv.amount mem credits hrow refunds
      obtain ⟨anchor, hanchor⟩ := Option.ne_none_iff_exists'.mp
        ((w.db.creditLedger.checked row hrow).refundEntriesAreAnchoredDebits refunds.1).2
      have notCredit : ¬ row.credits paymentIntentId := by
        rintro ⟨purchase | autopay, -⟩
        · exact absurd (purchase.symm.trans refunds.1) (by decide)
        · exact absurd (autopay.symm.trans refunds.1) (by decide)
      rw [← amount]
      exact sum_of_anchor hrow ⟨⟨user, notCredit⟩, refunds⟩ hanchor fun _ hother all =>
        inv.refund_eq hrow refunds hother all.2
    next none =>
      exact sumWhere_eq_zero fun row hrow all => none ⟨row, hrow, all.2⟩
  have rest : sumWhere (fun row => (row.userId = credit.userId ∧ ¬ row.credits paymentIntentId) ∧
      ¬ row.refunds paymentIntentId) CreditLedger.amountUsd w.db.creditLedger.rows =
        w.others paymentIntentId credit.userId :=
    sumWhere_congr (fun _ _ => and_assoc) fun _ _ _ => rfl
  rw [sumWhere_and_not (q := fun row : CreditLedger => row.credits paymentIntentId), ofCredit,
    sumWhere_and_not (q := fun row : CreditLedger => row.refunds paymentIntentId), ofRefund, rest]
  split <;> ring

theorem Inv.balance (inv : Inv stripe before w) (conserves : Conserves opening.db.toDb w.db.toDb)
    (mem : credit ∈ w.db.creditLedger) (credits : credit.credits paymentIntentId)
    (huser : user ∈ w.db.users) (id : user.id = credit.userId) :
    ∃ before ∈ unexplained opening.db.toDb credit.userId,
      user.creditBalanceUsd = before + w.others paymentIntentId credit.userId +
        if w.Refunded paymentIntentId then 0 else credit.amountUsd := by
  have found : w.db.users.find (fun row => row.id = credit.userId) = some user :=
    Table.find_of_mem huser id fun _ _ ha hb => ha.trans hb.symm
  refine ⟨user.creditBalanceUsd - sumWhere (fun row => row.userId = credit.userId)
    CreditLedger.amountUsd w.db.creditLedger.rows, ?_, ?_⟩
  · rw [← conserves credit.userId]
    show Option.map _ (w.db.users.find fun row => row.id = credit.userId) = _
    rw [found]
    rfl
  · rw [inv.ledger_sum mem credits]
    ring

theorem Inv.converged (inv : Inv stripe before w) (conserves : Conserves opening.db.toDb w.db.toDb)
    (settled : w.Settled paymentIntentId) (intent : IsIntent stripe paymentIntentId)
    (mem : credit ∈ w.db.creditLedger) (credits : credit.credits paymentIntentId) :
    World.Converged opening w paymentIntentId credit where
  refunded := inv.refunded settled intent mem credits
  once := inv.once
  amount _ hrow refunds := inv.amount mem credits hrow refunds
  frozen := by
    rintro ⟨event, hevent, names, dispute⟩
    exact (inv.effect intent mem credits (settled event hevent names) names).2 dispute
  balance _ huser id := inv.balance conserves mem credits huser id

/-- Runs that converged on the same credit and the same events left the same. -/
theorem World.Converged.same {credit' : CreditLedger}
    (converged : World.Converged opening w paymentIntentId credit)
    (converged' : World.Converged opening w' paymentIntentId credit')
    (user : credit'.userId = credit.userId) (amount : credit'.amountUsd = credit.amountUsd)
    (covered : Covered w'.delivered paymentIntentId credit.amountUsd ↔
      Covered w.delivered paymentIntentId credit.amountUsd) :
    World.SameOutcome w w' paymentIntentId credit.userId := by
  have same : w'.Refunded paymentIntentId ↔ w.Refunded paymentIntentId := by
    rw [converged'.refunded, converged.refunded, amount, covered]
  constructor
  · intro row hrow refunds
    obtain ⟨row', hrow', refunds'⟩ := same.mpr ⟨row, hrow, refunds⟩
    obtain ⟨holder, taken⟩ := converged.amount row hrow refunds
    obtain ⟨holder', taken'⟩ := converged'.amount row' hrow' refunds'
    exact ⟨row', hrow', refunds', by rw [holder', user, holder], by rw [taken', amount, taken]⟩
  · intro row' hrow' refunds'
    obtain ⟨row, hrow, refunds⟩ := same.mp ⟨row', hrow', refunds'⟩
    obtain ⟨holder, taken⟩ := converged.amount row hrow refunds
    obtain ⟨holder', taken'⟩ := converged'.amount row' hrow' refunds'
    exact ⟨row, hrow, refunds, by rw [holder', user, holder], by rw [taken', amount, taken]⟩
  · intro owner howner id owner' howner' id'
    obtain ⟨before, hbefore, balance⟩ := converged.balance owner howner id
    obtain ⟨before', hbefore', balance'⟩ := converged'.balance owner' howner' (id'.trans user.symm)
    rw [user] at hbefore' balance'
    obtain rfl : before = before' := Option.some.inj (hbefore.symm.trans hbefore')
    rw [balance, balance', amount]
    simp only [same]
    ring

/-- For every credited intent and every order of its credit and its events, with any of the
    handler's transactions failing: no reversal that was recorded or acknowledged leaves its
    credit spendable, only a dispute freezes, and once the events are acknowledged what is
    left is what any other run with that credit and those events left. -/
theorem credits_and_reversals_converge {bounds : CheckoutBounds} (fresh : opening.Opening)
    (run : Reaches stripe bounds Transition.anyStep opening w)
    (intent : IsIntent stripe paymentIntentId) (mem : credit ∈ w.db.creditLedger)
    (credits : credit.credits paymentIntentId) :
    w.Guarded paymentIntentId credit ∧ World.FrozenByDisputes opening w ∧
      (w.Settled paymentIntentId →
        World.Converged opening w paymentIntentId credit ∧
        ∀ (w' : World) (credit' : CreditLedger),
          Reaches stripe bounds Transition.anyStep opening w' →
          credit' ∈ w'.db.creditLedger → credit'.credits paymentIntentId →
          credit'.userId = credit.userId → credit'.amountUsd = credit.amountUsd →
          (∀ event, event.paymentIntent = paymentIntentId →
            (event ∈ w'.delivered ↔ event ∈ w.delivered)) →
          w'.Settled paymentIntentId →
          World.SameOutcome w w' paymentIntentId credit.userId) := by
  have inv : Inv stripe (standing opening.db.toDb) w := fresh.inv.run run
  refine ⟨inv.guarded intent mem credits, inv.frozenByDisputes, fun settled => ?_⟩
  have converged := inv.converged (conserves_reaches run) settled intent mem credits
  refine ⟨converged, fun w' credit' run' mem' credits' user amount same settled' => ?_⟩
  have inv' : Inv stripe (standing opening.db.toDb) w' := fresh.inv.run run'
  have converged' := inv'.converged (conserves_reaches run') settled' intent mem' credits'
  refine converged.same converged' user amount ?_
  have whole := inv.whole mem credits
  rw [covered_iff inv'.books.authentic whole, covered_iff inv.books.authentic whole]
  constructor
  · rintro ⟨event, hevent, names, covers⟩
    exact ⟨event, (same event names).mp hevent, names, covers⟩
  · rintro ⟨event, hevent, names, covers⟩
    exact ⟨event, (same event names).mpr hevent, names, covers⟩

end Converge

/-! ## A refund before and after its credit -/

def oneAccount : Table usersTable where
  rows := [{ id := 1, creditBalanceUsd := 0, frozenAt := none, frozenReason := none }]
  checked := by decide
  distinct := by decide

def untouched : World where
  db :=
    { Db.fresh oneAccount .empty with
      autopaySettings := .empty
      stripeAutopayIntents := .empty }
  deliveries := []
  attaching := []
  delivered := []
  acknowledged := []
  unfrozen := []
  claimed := []
  marks := []

theorem untouched_opening : untouched.Opening where
  ledger _ h := absurd h not_mem_nil
  tombstones := rfl
  intents := rfl
  topups _ h := absurd h not_mem_nil
  deliveries := rfl
  delivered := rfl
  acknowledged := rfl

def onePurchase : StripeObjects where
  object id :=
    if id = "cs_1" then .session (some "pi_1")
    else if id = "pi_1" then .paymentIntent (some "cs_1")
    else if id = "ch_1" then .reversal "pi_1" false (some "usd")
    else .other
  notLocal idempotencyKey := by
    have apart : ∀ id : String, id.toList.head? ≠ some 'l' →
        AutopayDb.localId idempotencyKey ≠ id := by
      rintro _ head rfl
      exact head (by simp [AutopayDb.localId])
    simp [apart "cs_1" (by decide), apart "pi_1" (by decide), apart "ch_1" (by decide)]

def fiveToTen : CheckoutBounds := { checkoutMinUsd := 5, checkoutMaxUsd := 10 }

def refundEvent : StripeEvent where
  eventType := "charge.refunded"
  object := .object
    [("id", .string "ch_1"), ("payment_intent", .string "pi_1"), ("amount_refunded", .integer 500),
      ("currency", .string "USD")]

def refundReport : ReversalEvent where
  objectId := "ch_1"
  paymentIntent := "pi_1"
  isDispute := false
  reversedCents := some 500
  currency := some "usd"

def refundAfter : List Action :=
  [.creditPurchase 0 1 5 "cs_1" (some "pi_1"), .deliver refundEvent, .resolve 0 0 .commit,
    .reverse 0 .commitUnseen, .deliver refundEvent, .resolve 0 0 .commit, .reverse 0 .commit,
    .stamp 0 0 .commit]

def refundBefore : List Action :=
  [.deliver refundEvent, .resolve 0 0 .commit, .creditPurchase 0 1 5 "cs_1" (some "pi_1")]

/-- A run left a credit, its refund and the one event acknowledged. -/
def Left (note : String) (w : World) : Prop :=
  w.db.creditLedger.rows =
      [purchaseEntry 1 5 "cs_1" (some "pi_1") 5, refundEntry 1 5 "ch_1" "pi_1" note 0] ∧
    w.delivered.all (· = refundReport) = true ∧ w.acknowledged = [refundReport] ∧
    w.delivered ≠ []

instance (note : String) (w : World) : Decidable (Left note w) :=
  inferInstanceAs (Decidable (_ ∧ _ ∧ _ ∧ _))

theorem Left.credit (left : Left note w) :
    purchaseEntry 1 5 "cs_1" (some "pi_1") 5 ∈ w.db.creditLedger := by
  rw [Table.mem_def, left.1]
  exact mem_cons_self

theorem Left.delivered (left : Left note w) (event : ReversalEvent) :
    event ∈ w.delivered ↔ event = refundReport := by
  have all : ∀ other ∈ w.delivered, other = refundReport := by simpa using left.2.1
  constructor
  · exact all event
  · rintro rfl
    obtain ⟨other, hother⟩ := exists_mem_of_ne_nil _ left.2.2.2
    exact all other hother ▸ hother

theorem Left.settled (left : Left note w) : w.Settled "pi_1" := by
  intro event hevent _
  rw [(left.delivered event).mp hevent, left.2.2.1]
  exact mem_cons_self

theorem exists_left_after : ∃ w, Reaches onePurchase fiveToTen anyStep untouched w ∧
    Left "refund reversal (ch_1)" w := by
  have runs : (runWhile (step onePurchase fiveToTen) anyStep untouched
      refundAfter).any (fun w => Left "refund reversal (ch_1)" w) = true := by decide +kernel
  obtain ⟨w, run, left⟩ := Steps.exists_of_runWhile runs
  exact ⟨w, run, of_decide_eq_true left⟩

theorem exists_left_before : ∃ w, Reaches onePurchase fiveToTen anyStep untouched w ∧
    Left "refund reversal (ch_1); reversal observed before credit" w := by
  have runs : (runWhile (step onePurchase fiveToTen) anyStep untouched
      refundBefore).any (fun w => Left "refund reversal (ch_1); reversal observed before credit" w) =
        true := by decide +kernel
  obtain ⟨w, run, left⟩ := Steps.exists_of_runWhile runs
  exact ⟨w, run, of_decide_eq_true left⟩

/-- The same credit and the same event, acknowledged, and not the same ledger. -/
theorem refund_before_leaves_another_ledger :
    ∃ w w' : World, Reaches onePurchase fiveToTen Transition.anyStep untouched w ∧
      Reaches onePurchase fiveToTen Transition.anyStep untouched w' ∧
      (∃ credit ∈ w.db.creditLedger, credit ∈ w'.db.creditLedger ∧ credit.credits "pi_1") ∧
      (∀ event, event ∈ w'.delivered ↔ event ∈ w.delivered) ∧
      w.Settled "pi_1" ∧ w'.Settled "pi_1" ∧
      w.db.creditLedger.rows ≠ w'.db.creditLedger.rows := by
  obtain ⟨w, run, left⟩ := exists_left_after
  obtain ⟨w', run', left'⟩ := exists_left_before
  refine ⟨w, w', run, run', ⟨_, left.credit, left'.credit, by decide⟩, fun event => ?_,
    left.settled, left'.settled, ?_⟩
  · rw [left.delivered, left'.delivered]
  · rw [left.1, left'.1]
    decide

theorem credits_and_reversals_converge_refund :
    ∃ w w' : World, w.Refunded "pi_1" ∧ World.SameOutcome w w' "pi_1" 1 := by
  obtain ⟨w, run, left⟩ := exists_left_after
  obtain ⟨w', run', left'⟩ := exists_left_before
  have intent : IsIntent onePurchase "pi_1" := ⟨some "cs_1", by decide⟩
  obtain ⟨-, -, converges⟩ := credits_and_reversals_converge untouched_opening run intent
    left.credit (by decide)
  refine ⟨w, w', ⟨refundEntry 1 5 "ch_1" "pi_1" "refund reversal (ch_1)" 0, ?_, by decide⟩, ?_⟩
  · rw [Table.mem_def, left.1]
    exact List.mem_cons_of_mem _ List.mem_cons_self
  · exact (converges left.settled).2 w' _ run' left'.credit (by decide) rfl rfl
      (fun event _ => by rw [left.delivered, left'.delivered]) left'.settled

end ZeroRouter.Billing
