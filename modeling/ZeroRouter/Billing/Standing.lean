import ZeroRouter.Billing.System

/-!
# Where an intent stands

What convergence is about, without the rest of the database: the credits and refunds of
Stripe's objects but for their snapshots of a balance, the reversals observed early, and
which accounts are frozen and why.  Each transaction is one small operation on it.
-/

namespace ZeroRouter.Billing

open Relational Table

variable {row : CreditLedger} {paymentIntentId : String} {users : Table usersTable}
  {creditedUsd : Decimal} {users' : Table usersTable} {f : User → User} {creditReversal : Bool}
  {missing : SqlError} {delta amountUsd : Decimal} {entry : Decimal → CreditLedger}
  {reason : FrozenReason} {tombstone : StripeObservedReversal} {event : ReversalEvent}

/-- A row but for the balance it left. -/
def unsnapped (row : CreditLedger) : CreditLedger := { row with balanceAfterUsd := 0 }

/-- A credit or refund of Stripe's. -/
def isStripe (row : CreditLedger) : Prop :=
  row.entryType = .purchase ∨ row.entryType = .autopay ∨ row.entryType = .refund

instance (row : CreditLedger) : Decidable (isStripe row) := inferInstanceAs (Decidable (_ ∨ _))

@[simp] theorem isStripe_unsnapped : isStripe (unsnapped row) ↔ isStripe row :=
  Iff.rfl

@[simp] theorem credits_unsnapped :
    (unsnapped row).credits paymentIntentId ↔ row.credits paymentIntentId := Iff.rfl

@[simp] theorem refunds_unsnapped :
    (unsnapped row).refunds paymentIntentId ↔ row.refunds paymentIntentId := Iff.rfl

theorem isStripe_of_credits (h : row.credits paymentIntentId) : isStripe row :=
  h.1.elim .inl fun autopay => .inr (.inl autopay)

theorem isStripe_of_refunds (h : row.refunds paymentIntentId) : isStripe row :=
  .inr (.inr h.1)

/-- An account is unknown, live, or frozen for a reason. -/
structure Standing where
  rows : List CreditLedger
  tombstones : List StripeObservedReversal
  account : Uuid → Option (Option FrozenReason)

def accountOf (users : Table usersTable) (userId : Uuid) : Option (Option FrozenReason) :=
  (users.find fun user => user.id = userId).map User.frozenReason

def standing (db : Db) : Standing where
  rows := (db.creditLedger.rows.filter fun row => isStripe row).map unsnapped
  tombstones := db.stripeObservedReversals.rows
  account := accountOf db.users

namespace Standing

variable (s : Standing)

/-- A row is entered; what is not Stripe's does not show. -/
def enter (row : CreditLedger) : Standing :=
  if isStripe row then { s with rows := s.rows ++ [unsnapped row] } else s

/-- An account is frozen, unless it is already. -/
def freeze (userId : Uuid) (reason : FrozenReason) : Standing :=
  { s with
    account := Function.update s.account userId
      ((s.account userId).map fun frozen => frozen.or (some reason)) }

def unfreeze (userId : Uuid) : Standing :=
  { s with account := Function.update s.account userId ((s.account userId).map fun _ => none) }

/-- The intent, or the object, was reversed. -/
def reversed (objectId paymentIntentId : String) : Prop :=
  ∃ row ∈ s.rows, row.stripeSessionId = some objectId ∨ row.refunds paymentIntentId

instance (objectId paymentIntentId : String) : Decidable (s.reversed objectId paymentIntentId) :=
  inferInstanceAs (Decidable (∃ _ ∈ _, _))

/-- A reversal is remembered, or merged into what is remembered of its object. -/
def observe (now : Timestamp) (event : ReversalEvent) : Standing :=
  { s with
    tombstones :=
      if ∃ row ∈ s.tombstones, row.objectId = event.objectId then
        s.tombstones.map (Table.rewrite (fun row => row.absorbs event) fun row =>
          { row with reversedCents := greatestCents event.reversedCents row.reversedCents })
      else s.tombstones ++ [event.tombstone now] }

/-- The tombstones that satisfy `p` are stamped. -/
def stamp (now : Timestamp) (p : StripeObservedReversal → Prop) [DecidablePred p] : Standing :=
  { s with tombstones := s.tombstones.map (Table.rewrite p fun row => { row with appliedAt := some now }) }

/-- A dispute freezes. -/
def dispute (userId : Uuid) (tombstone : StripeObservedReversal) : Standing :=
  if tombstone.isDispute then s.freeze userId .dispute else s

/-- A tombstone that covers the credit takes it back, unless that was done. -/
def takeBack (userId : Uuid) (paymentIntentId : String) (creditedUsd : Decimal)
    (tombstone : StripeObservedReversal) : Standing :=
  if tombstone.covers creditedUsd ∧ ¬ s.reversed tombstone.objectId paymentIntentId then
    s.enter (refundEntry userId creditedUsd tombstone.objectId paymentIntentId
      (reversalNote tombstone) 0)
  else s

/-- One tombstone meets the credit it was waiting for. -/
def meet (now : Timestamp) (userId : Uuid) (paymentIntentId : String) (creditedUsd : Decimal)
    (tombstone : StripeObservedReversal) : Standing :=
  let taken := (s.dispute userId tombstone).takeBack userId paymentIntentId creditedUsd tombstone
  if tombstone.isDispute ∨ tombstone.covers creditedUsd then
    taken.stamp now fun row => row.objectId = tombstone.objectId
  else taken

/-- The unapplied tombstones of an intent, oldest first. -/
def waiting (paymentIntentId : String) : List StripeObservedReversal :=
  (s.tombstones.filter fun row => row.paymentIntentId = paymentIntentId ∧ row.appliedAt = none)
    |>.insertionSort fun a b =>
      a.observedAt < b.observedAt ∨ (a.observedAt = b.observedAt ∧ a.objectId ≤ b.objectId)

/-- All of them meet it. -/
def meetAll (now : Timestamp) (userId : Uuid) (paymentIntentId : String) (creditedUsd : Decimal) :
    Standing :=
  (s.waiting paymentIntentId).foldl
    (fun s tombstone => s.meet now userId paymentIntentId creditedUsd tombstone) s

end Standing

/-! ## Each transaction's operation -/

section Operations

variable {db db' : Db} {now : Timestamp} {userId : Uuid} {paymentIntentId : String}

theorem rows_insert {ledger ledger' : Table creditLedgerTable}
    (h : ledger.insert row = .ok ledger') :
    (ledger'.rows.filter fun row => isStripe row).map unsnapped =
      (ledger.rows.filter fun row => isStripe row).map unsnapped ++
        if isStripe row then [unsnapped row] else [] := by
  rw [(insert_ok h).1, List.filter_append, List.map_append]
  by_cases stripe : isStripe row <;> simp [stripe]

theorem accountOf_updateWhere {p : User → Prop} [DecidablePred p]
    (h : users.updateWhere p f = .ok users') (keeps : ∀ user, (f user).id = user.id)
    (other : Uuid) :
    accountOf users' other =
      (users.find fun user => user.id = other).map fun user =>
        (rewrite p f user).frozenReason := by
  unfold accountOf
  rw [find_updateWhere h, Option.map_map]
  · rfl
  · intro user
    unfold rewrite
    split
    · rw [keeps]
    · rfl

theorem standing_moveBalance
    (h : db.moveBalance userId creditReversal missing delta entry = .ok db') :
    ∃ balanceAfter, standing db' = (standing db).enter (entry balanceAfter) ∧
      (accountOf db.users userId).isSome = true := by
  obtain ⟨user, users, ledger, huser, rfl, -, husers, hledger, rfl⟩ := Db.moveBalance_ok h
  refine ⟨user.creditBalanceUsd + delta, ?_, ?_⟩
  · have accounts : accountOf users = accountOf db.users := by
      funext other
      rw [accountOf_updateWhere husers fun _ => rfl]
      unfold accountOf
      congr 1
      funext row
      unfold rewrite
      split <;> rfl
    simp only [standing, accounts, rows_insert hledger, Standing.enter]
    split <;> simp
  · have found : db.users.find (fun row => row.id = user.id) = some user :=
      find_of_mem huser rfl fun _ _ ha hb => ha.trans hb.symm
    simp [accountOf, found]

/-- `users_freeze_state_is_whole`: the instant and the reason go together. -/
theorem frozen_iff {user : User} (h : user ∈ users) :
    user.frozenAt = none ↔ user.frozenReason = none := by
  have check : user.frozenAt.isNone = user.frozenReason.isNone := users.checked user h
  rw [← Option.isNone_iff_eq_none, ← Option.isNone_iff_eq_none, check]

/-- An update of one account does to its standing what it does to its reason. -/
theorem accountOf_rewritten {q : User → Prop} [DecidablePred q]
    {g : Option FrozenReason → Option FrozenReason}
    (h : users.updateWhere (fun user => user.id = userId ∧ q user) f = .ok users')
    (keeps : ∀ user, (f user).id = user.id)
    (does : ∀ user ∈ users, g user.frozenReason =
      if q user then (f user).frozenReason else user.frozenReason) :
    accountOf users' = Function.update (accountOf users) userId ((accountOf users userId).map g) := by
  funext other
  rw [accountOf_updateWhere h keeps]
  by_cases here : other = userId
  · subst here
    rw [Function.update_self]
    unfold accountOf
    rw [Option.map_map]
    cases found : users.find fun user => user.id = other with
    | none => rfl
    | some user =>
        obtain ⟨huser, hid⟩ := find_some found
        simp only [Option.map_some, Function.comp_apply, does user huser, rewrite, hid]
        split <;> simp_all
  · rw [Function.update_of_ne here]
    unfold accountOf
    cases found : users.find fun user => user.id = other with
    | none => rfl
    | some user =>
        obtain ⟨-, hid⟩ := find_some found
        simp [rewrite, hid, here]

theorem standing_freezeAccount (h : db.freezeAccount now userId reason = .ok db') :
    standing db' = (standing db).freeze userId reason := by
  simp only [Db.freezeAccount, bind_eq_ok, liftViolation_eq_ok] at h
  obtain ⟨users, husers, h⟩ := h
  cases h
  have accounts : accountOf users = ((standing db).freeze userId reason).account := by
    apply accountOf_rewritten husers fun _ => rfl
    intro user huser
    cases live : user.frozenReason <;> simp [frozen_iff huser, live]
  simp only [standing, accounts]
  rfl

theorem standing_unfreezeAccount (h : db.unfreezeAccount userId = .ok db') :
    standing db' = (standing db).unfreeze userId := by
  simp only [Db.unfreezeAccount, bind_eq_ok, liftViolation_eq_ok] at h
  obtain ⟨users, husers, h⟩ := h
  cases h
  have accounts : accountOf users = ((standing db).unfreeze userId).account := by
    apply accountOf_rewritten husers fun _ => rfl
    intro user huser
    cases live : user.frozenReason <;> simp [frozen_iff huser, live]
  simp only [standing, accounts]
  rfl

/-- Rows that are not Stripe's name nothing of Stripe's. -/
def Unanchored (db : Db) : Prop :=
  ∀ row ∈ db.creditLedger, ¬ isStripe row →
    row.stripeSessionId = none ∧ row.stripePaymentIntentId = none

theorem Unanchored.moveBalance (unanchored : Unanchored db)
    (h : db.moveBalance userId creditReversal missing delta entry = .ok db')
    (stripe : ∀ balanceAfter, ¬ isStripe (entry balanceAfter) →
      (entry balanceAfter).stripeSessionId = none ∧
        (entry balanceAfter).stripePaymentIntentId = none) : Unanchored db' := by
  obtain ⟨user, users, ledger, -, -, -, -, hledger, rfl⟩ := Db.moveBalance_ok h
  intro row hrow other
  rcases (mem_insert hledger).mp hrow with before | rfl
  · exact unanchored row before other
  · exact stripe _ other

theorem Unanchored.freezeAccount (unanchored : Unanchored db)
    (h : db.freezeAccount now userId reason = .ok db') : Unanchored db' := by
  simp only [Db.freezeAccount, bind_eq_ok, liftViolation_eq_ok] at h
  obtain ⟨users, -, h⟩ := h
  cases h
  exact unanchored

theorem mem_rows (h : row ∈ db.creditLedger) (stripe : isStripe row) :
    unsnapped row ∈ (standing db).rows :=
  List.mem_map_of_mem (List.mem_filter.mpr ⟨h, decide_eq_true stripe⟩)

theorem of_mem_rows (h : row ∈ (standing db).rows) :
    ∃ full ∈ db.creditLedger, isStripe full ∧ unsnapped full = row := by
  obtain ⟨full, hfull, rfl⟩ := List.mem_map.mp h
  obtain ⟨mem, stripe⟩ := List.mem_filter.mp hfull
  exact ⟨full, mem, of_decide_eq_true stripe, rfl⟩

theorem reversed_iff (unanchored : Unanchored db) (objectId : String) :
    (standing db).reversed objectId paymentIntentId ↔
      db.alreadyReversed objectId paymentIntentId := by
  constructor
  · rintro ⟨row, hrow, anchor⟩
    obtain ⟨full, hfull, -, rfl⟩ := of_mem_rows hrow
    exact ⟨full, hfull, anchor⟩
  · rintro ⟨row, hrow, anchor⟩
    have stripe : isStripe row := by
      by_contra other
      obtain ⟨session, intent⟩ := unanchored row hrow other
      rcases anchor with object | refund
      · rw [session] at object
        cases object
      · exact other (isStripe_of_refunds refund)
    exact ⟨unsnapped row, mem_rows hrow stripe, anchor⟩

/-! ## Reversals meeting their credit -/

theorem standing_stamp {tombstones : Table stripeObservedReversalsTable}
    {p : StripeObservedReversal → Prop} [DecidablePred p]
    (h : db.stripeObservedReversals.updateWhere p
      (fun row => { row with appliedAt := some now }) = .ok tombstones) :
    standing { db with stripeObservedReversals := tombstones } = (standing db).stamp now p := by
  simp only [standing, Standing.stamp, updateWhere_ok h]

theorem standing_reverseCredit (unanchored : Unanchored db)
    (h : db.reverseCredit userId paymentIntentId creditedUsd tombstone = .ok db') :
    Unanchored db' ∧
      standing db' =
        if (standing db).reversed tombstone.objectId paymentIntentId then standing db
        else (standing db).enter (refundEntry userId creditedUsd tombstone.objectId paymentIntentId
          (reversalNote tombstone) 0) := by
  unfold Db.reverseCredit at h
  split at h
  next already =>
    cases h
    rw [if_pos ((reversed_iff unanchored _).mpr already)]
    exact ⟨unanchored, rfl⟩
  next not =>
    have refund : ∀ balanceAfter,
        isStripe (refundEntry userId creditedUsd tombstone.objectId paymentIntentId
          (reversalNote tombstone) balanceAfter) := fun _ => .inr (.inr rfl)
    obtain ⟨balanceAfter, same, -⟩ := standing_moveBalance h
    rw [if_neg fun reversed => not ((reversed_iff unanchored _).mp reversed), same]
    refine ⟨unanchored.moveBalance h fun _ other => absurd (.inr (.inr rfl)) other, ?_⟩
    simp only [Standing.enter, refund, if_true]
    rw [if_pos (.inr (.inr rfl))]
    rfl

theorem standing_applyObservedReversal (unanchored : Unanchored db)
    (h : db.applyObservedReversal now userId paymentIntentId creditedUsd tombstone = .ok db') :
    Unanchored db' ∧
      standing db' = (standing db).meet now userId paymentIntentId creditedUsd tombstone := by
  simp only [Db.applyObservedReversal, bind_eq_ok] at h
  obtain ⟨frozen, hfrozen, reversed, hreversed, h⟩ := h
  have freezing : Unanchored frozen ∧
      standing frozen = (standing db).dispute userId tombstone := by
    unfold Standing.dispute
    split at hfrozen
    next dispute =>
      rw [if_pos dispute]
      exact ⟨unanchored.freezeAccount hfrozen, standing_freezeAccount hfrozen⟩
    next refund =>
      cases hfrozen
      rw [if_neg refund]
      exact ⟨unanchored, rfl⟩
  obtain ⟨unanchoredFrozen, hstanding⟩ := freezing
  have taking : Unanchored reversed ∧ standing reversed =
      (standing frozen).takeBack userId paymentIntentId creditedUsd tombstone := by
    unfold Standing.takeBack
    split at hreversed
    next covers =>
      obtain ⟨kept, same⟩ := standing_reverseCredit unanchoredFrozen hreversed
      refine ⟨kept, same.trans ?_⟩
      by_cases already : (standing frozen).reversed tombstone.objectId paymentIntentId <;>
        simp [already, covers]
    next short =>
      cases hreversed
      exact ⟨unanchoredFrozen, by simp [short]⟩
  obtain ⟨unanchoredReversed, htaken⟩ := taking
  unfold Standing.meet
  simp only [← hstanding, ← htaken]
  split at h
  next discharged =>
    simp only [bind_eq_ok, liftViolation_eq_ok] at h
    obtain ⟨table, htable, h⟩ := h
    cases h
    rw [if_pos discharged]
    exact ⟨unanchoredReversed, standing_stamp htable⟩
  next open_ =>
    cases h
    rw [if_neg open_]
    exact ⟨unanchoredReversed, rfl⟩

theorem standing_applyObservedReversals (unanchored : Unanchored db)
    (h : db.applyObservedReversals now userId paymentIntentId creditedUsd = .ok db') :
    Unanchored db' ∧
      standing db' = (standing db).meetAll now userId paymentIntentId creditedUsd := by
  have fold : ∀ (tombstones : List StripeObservedReversal) (db db' : Db), Unanchored db →
      tombstones.foldlM (fun db tombstone =>
        db.applyObservedReversal now userId paymentIntentId creditedUsd tombstone) db = .ok db' →
      Unanchored db' ∧ standing db' = tombstones.foldl (fun s tombstone =>
        s.meet now userId paymentIntentId creditedUsd tombstone) (standing db) := by
    intro tombstones
    induction tombstones with
    | nil =>
        intro db db' unanchored h
        cases h
        exact ⟨unanchored, rfl⟩
    | cons first rest ih =>
        intro db db' unanchored h
        simp only [List.foldlM_cons, bind_eq_ok] at h
        obtain ⟨met, hmet, h⟩ := h
        obtain ⟨kept, same⟩ := standing_applyObservedReversal unanchored hmet
        rw [List.foldl_cons, ← same]
        exact ih met db' kept h
  exact fold _ db db' unanchored h

/-! ## Remembering, taking back, crediting -/

theorem standing_insertObservedReversal (h : db.insertObservedReversal now event = .ok db') :
    db'.creditLedger = db.creditLedger ∧ standing db' = (standing db).observe now event := by
  simp only [Db.insertObservedReversal, bind_eq_ok, liftViolation_eq_ok] at h
  obtain ⟨-, -, -, -, tombstones, htombstones, h⟩ := h
  cases h
  refine ⟨rfl, ?_⟩
  have rows : tombstones.rows = ((standing db).observe now event).tombstones := by
    split at htombstones
    next known => exact (updateWhere_ok htombstones).trans (if_pos known).symm
    next new => exact (insert_ok htombstones).1.trans (if_neg new).symm
  simp only [standing, rows]
  rfl

theorem standing_resolveReversalAgainstCredit {found : Option CreditLedger}
    (h : db.resolveReversalAgainstCredit now event = .ok (found, db')) :
    db'.creditLedger = db.creditLedger ∧ found = db.creditedPurchase event.paymentIntent ∧
      standing db' = if found.isSome then standing db else (standing db).observe now event := by
  simp only [Db.resolveReversalAgainstCredit, bind_eq_ok] at h
  obtain ⟨-, -, -, -, h⟩ := h
  split at h
  next credit hcredit =>
    cases h
    exact ⟨rfl, hcredit.symm, rfl⟩
  next hnone =>
    simp only [bind_eq_ok] at h
    obtain ⟨observed, hobserved, h⟩ := h
    cases h
    obtain ⟨ledger, same⟩ := standing_insertObservedReversal hobserved
    exact ⟨ledger, hnone.symm, same⟩

theorem standing_markIntentReversalsApplied
    (h : db.markIntentReversalsApplied now paymentIntentId = .ok db') :
    db'.creditLedger = db.creditLedger ∧
      standing db' = (standing db).stamp now
        fun row => row.paymentIntentId = paymentIntentId ∧ row.appliedAt = none := by
  simp only [Db.markIntentReversalsApplied, bind_eq_ok, liftViolation_eq_ok] at h
  obtain ⟨-, -, tombstones, htombstones, h⟩ := h
  cases h
  exact ⟨rfl, standing_stamp htombstones⟩

/-- A reversal of a credit that is there: nothing, or the credit's refund. -/
theorem standing_reversePurchase {objectId note : String} {outcome : ReversalOutcome}
    (unanchored : Unanchored db)
    (h : db.reversePurchase paymentIntentId objectId note = .ok (outcome, db')) :
    Unanchored db' ∧
      match db.creditedPurchase paymentIntentId with
      | none => outcome = .unknownPurchase ∧ standing db' = standing db
      | some credit =>
          outcome ≠ .unknownPurchase ∧
            standing db' =
              if (standing db).reversed objectId paymentIntentId then standing db
              else (standing db).enter
                (refundEntry credit.userId credit.amountUsd objectId paymentIntentId note 0) := by
  simp only [Db.reversePurchase, bind_eq_ok] at h
  obtain ⟨-, -, h⟩ := h
  cases found : db.creditedPurchase paymentIntentId with
  | none =>
    rw [found] at h
    cases h
    exact ⟨unanchored, rfl, rfl⟩
  | some credit =>
    rw [found] at h
    dsimp only at h ⊢
    split at h
    next already =>
      cases h
      rw [if_pos ((reversed_iff unanchored _).mpr already)]
      exact ⟨unanchored, by simp, rfl⟩
    next not =>
      simp only [bind_eq_ok] at h
      obtain ⟨taken, htaken, balance, -, h⟩ := h
      cases h
      obtain ⟨balanceAfter, same, -⟩ := standing_moveBalance htaken
      refine ⟨unanchored.moveBalance htaken fun _ other => absurd (.inr (.inr rfl)) other, by simp, ?_⟩
      rw [if_neg fun reversed => not ((reversed_iff unanchored _).mp reversed), same]
      simp only [Standing.enter]
      rw [if_pos (.inr (.inr rfl)), if_pos (.inr (.inr rfl))]
      rfl

namespace Standing

/-- A credit is entered, and what was observed of its intent meets it. -/
def credit (s : Standing) (now : Timestamp) (row : CreditLedger) (paymentIntent : Option String) :
    Standing :=
  match paymentIntent with
  | none => s.enter row
  | some paymentIntentId =>
      (s.enter row).meetAll now row.userId paymentIntentId row.amountUsd

end Standing

/-- A row can be entered: its user is known and nothing else has its anchor. -/
structure Enterable (s : Standing) (row : CreditLedger) : Prop where
  user : (s.account row.userId).isSome = true
  anchor : ∀ other ∈ s.rows, other.stripeSessionId ≠ row.stripeSessionId

theorem standing_creditPurchase {stripeSessionId : String} {stripePaymentIntentId : Option String}
    {outcome : CreditOutcome} (unanchored : Unanchored db)
    (h : db.creditPurchase now userId amountUsd stripeSessionId stripePaymentIntentId =
      .ok (outcome, db')) :
    Unanchored db' ∧
      (standing db' = standing db ∨
        Enterable (standing db)
          (purchaseEntry userId amountUsd stripeSessionId stripePaymentIntentId 0) ∧
        standing db' = (standing db).credit now
          (purchaseEntry userId amountUsd stripeSessionId stripePaymentIntentId 0)
          stripePaymentIntentId) := by
  simp only [Db.creditPurchase, bind_eq_ok] at h
  obtain ⟨-, -, -, -, h⟩ := h
  split at h
  next already =>
    cases h
    exact ⟨unanchored, .inl rfl⟩
  next fresh =>
    simp only [bind_eq_ok] at h
    obtain ⟨credited, hcredited, balance, -, h⟩ := h
    obtain ⟨balanceAfter, same, known⟩ := standing_moveBalance hcredited
    have kept : Unanchored credited :=
      unanchored.moveBalance hcredited fun _ other => absurd (.inl rfl) other
    have entered : standing credited = (standing db).enter
        (purchaseEntry userId amountUsd stripeSessionId stripePaymentIntentId 0) := by
      rw [same]
      simp only [Standing.enter]
      rw [if_pos (.inl rfl), if_pos (.inl rfl)]
      rfl
    have enterable : Enterable (standing db)
        (purchaseEntry userId amountUsd stripeSessionId stripePaymentIntentId 0) := by
      refine ⟨known, fun other hother clash => ?_⟩
      obtain ⟨full, hfull, -, rfl⟩ := of_mem_rows hother
      exact fresh ⟨full, hfull, clash⟩
    cases stripePaymentIntentId with
    | none =>
        cases h
        exact ⟨kept, .inr ⟨enterable, entered⟩⟩
    | some paymentIntentId =>
        simp only [bind_eq_ok] at h
        obtain ⟨met, hmet, h⟩ := h
        cases h
        obtain ⟨keptMet, sameMet⟩ := standing_applyObservedReversals kept hmet
        refine ⟨keptMet, .inr ⟨enterable, ?_⟩⟩
        rw [sameMet, entered]
        rfl

/-- The credit of an autopay intent; its anchor is new because the ledger took it. -/
theorem standing_autopayCredit {moved money : Db} (unanchored : Unanchored db)
    (hmoved : db.moveBalance userId false .rowNotFound amountUsd
      (autopayEntry userId amountUsd paymentIntentId) = .ok moved)
    (hmoney : moved.applyObservedReversals now userId paymentIntentId amountUsd = .ok money) :
    Unanchored money ∧
      Enterable (standing db) (autopayEntry userId amountUsd paymentIntentId 0) ∧
      standing money = (standing db).credit now (autopayEntry userId amountUsd paymentIntentId 0)
        (some paymentIntentId) := by
  obtain ⟨balanceAfter, same, known⟩ := standing_moveBalance hmoved
  have kept : Unanchored moved :=
    unanchored.moveBalance hmoved fun _ other => absurd (.inr (.inl rfl)) other
  have entered : standing moved =
      (standing db).enter (autopayEntry userId amountUsd paymentIntentId 0) := by
    rw [same]
    simp only [Standing.enter]
    rw [if_pos (.inr (.inl rfl)), if_pos (.inr (.inl rfl))]
    rfl
  obtain ⟨keptMoney, sameMoney⟩ := standing_applyObservedReversals kept hmoney
  refine ⟨keptMoney, ⟨known, fun other hother clash => ?_⟩, ?_⟩
  · obtain ⟨full, hfull, -, rfl⟩ := of_mem_rows hother
    obtain ⟨_, _, ledger, -, -, -, -, hledger, -⟩ := Db.moveBalance_ok hmoved
    refine (insert_ok hledger).2.2 full hfull (.inl ⟨?_, clash⟩)
    intro missing
    rw [show full.stripeSessionId = some paymentIntentId from clash] at missing
    cases missing
  · rw [sameMoney, entered]
    rfl

end Operations

end ZeroRouter.Billing
