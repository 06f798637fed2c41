import ZeroRouter.Autopay
import ZeroRouter.Reversal
import ZeroRouter.Tax
import ZeroRouter.Lib.JournalRuns

/-!
# The writers of a balance, statement by statement

Nine transactions write `users.credit_balance_usd`: settlement in `db.rs`,
`collect_period` in `redemption_tax.rs`, and seven in `billing.rs`, of which
`apply_observed_reversals` runs inside two of the others.  Here each is the sequence
of its statements on locks, balances and `credit_ledger`, to be interleaved with the
others' by `Journal.step`.

What a writer reads of other tables, or of other columns, is an argument, so a run
may have it read anything.  Nothing else it does bears on a balance.  A refusal before
the transaction begins is a transaction that rolls back at once, and so is an error.
-/

namespace ZeroRouter

namespace Writers

open Journal

/-- The columns of a `credit_ledger` row beside its user and amounts. -/
structure LedgerTag where
  entryType : EntryType
  stripeSessionId : Option String
  stripePaymentIntentId : Option String
  requestId : Option Uuid
  note : Option String
  deriving DecidableEq, Repr

abbrev LedgerEntry := Entry Uuid Decimal LedgerTag

/-- An advisory lock is named by a 64-bit hash. -/
abbrev Statements := Program Uuid Int Decimal LedgerTag

/-- A `credit_ledger` row, less its id. -/
def toRow (entry : LedgerEntry) : CreditLedger where
  userId := entry.account
  entryType := entry.tag.entryType
  amountUsd := entry.amount
  balanceAfterUsd := entry.balanceAfter
  stripeSessionId := entry.tag.stripeSessionId
  stripePaymentIntentId := entry.tag.stripePaymentIntentId
  requestId := entry.tag.requestId
  note := entry.tag.note

def tagOf (row : CreditLedger) : LedgerTag where
  entryType := row.entryType
  stripeSessionId := row.stripeSessionId
  stripePaymentIntentId := row.stripePaymentIntentId
  requestId := row.requestId
  note := row.note

/-- The table's `CHECK`s.  A second row for one Stripe object or one request is an
    error too, which a run has as a transaction that aborts. -/
def ledgerCheck (entry : LedgerEntry) : Bool := decide (CreditLedgerCheck (toRow entry))

/-- `INSERT INTO credit_ledger`. -/
def insertRow (row : CreditLedger) (next : Statements) : Statements :=
  .insert row.userId row.amountUsd row.balanceAfterUsd (tagOf row) next

/-- `UPDATE users SET credit_balance_usd = credit_balance_usd + delta … RETURNING` and the
    row that explains it; no user is an error. -/
def moveBalance (userId : Uuid) (delta : Decimal) (entry : Decimal → CreditLedger)
    (next : Statements) : Statements :=
  .update userId (fun balance => some (balance + delta)) fun
    | none => .rollback
    | some balanceAfter => insertRow (entry balanceAfter) next

/-! ## The rows -/

/-- A row that names nothing but its amounts. -/
def plainEntry (userId : Uuid) (entryType : EntryType) (amountUsd : Decimal)
    (balanceAfter : Decimal) : CreditLedger where
  userId := userId
  entryType := entryType
  amountUsd := amountUsd
  balanceAfterUsd := balanceAfter
  stripeSessionId := none
  stripePaymentIntentId := none
  requestId := none
  note := none

/-- The row a settlement inserts. -/
def usageEntry (userId : Uuid) (debit : Decimal) (reservationId : Uuid) (balanceAfter : Decimal) :
    CreditLedger :=
  { plainEntry userId .usage (-debit) balanceAfter with requestId := some reservationId }

/-- The row of a credit or receipt that states a reason. -/
def notedEntry (userId : Uuid) (entryType : EntryType) (amountUsd : Decimal) (note : String)
    (balanceAfter : Decimal) : CreditLedger :=
  { plainEntry userId entryType amountUsd balanceAfter with note := some note }

/-! ## The writers -/

/-- What a settlement found of its reservation and its metering row. -/
inductive SettlementRead where
  | missing
  | duplicate
  | found (costUsd reservedCostUsd : Decimal)
  deriving DecidableEq, Repr

/-- A tombstone, and whether a row of the ledger has its object or its intent. -/
structure ObservedReversal where
  tombstone : StripeObservedReversal
  alreadyReversed : Bool
  deriving DecidableEq, Repr

/-- The writers, each with what it is called with and what it reads. -/
inductive Writer where
  | settleOnce (userId reservationId : Uuid) (requireCredits : Bool) (read : SettlementRead)
  | creditPurchase (userId : Uuid) (amountUsd : Decimal) (stripeSessionId : String)
      (stripePaymentIntentId : Option String) (alreadyApplied : Bool)
      (observed : List ObservedReversal)
  | grantPromo (userId : Uuid) (amountUsd : Decimal) (note : String)
  | reversePurchase (paymentIntentId stripeObjectId note : String)
      (credited : Option (Uuid × Decimal)) (alreadyReversed : Bool)
  | writeOffReceivable (userId : Uuid) (note : String)
  | recordRecovery (userId : Uuid) (amountUsd : Decimal) (note : String) (frozen reversed : Bool)
  | settleAutopayIntent (paymentIntentId : String) (mismatched : Bool)
      (succeeded : Option (Uuid × Decimal)) (armed : Bool) (observed : List ObservedReversal)
  | collectPeriod (periodId : Uuid) (period : Option (Uuid × Option Decimal))
  deriving DecidableEq, Repr

section Programs

-- `hashtextextended(user_id, 0)` and `hashtextextended(payment_intent_id, 1)`.
variable (userLock : Uuid → Int) (intentLock : String → Int)

/-- `settle_once`. -/
def settleOnce (userId reservationId : Uuid) (requireCredits : Bool) (read : SettlementRead) :
    Statements :=
  .lock (userLock userId) <|
    match read with
    | .missing => .rollback
    | .duplicate => .rollback
    | .found costUsd reservedCostUsd =>
        let debit := min costUsd reservedCostUsd
        if requireCredits ∧ 0 < debit then
          moveBalance userId (-debit) (usageEntry userId debit reservationId) .commit
        else .commit

/-- The tombstones of `apply_observed_reversals`, in order. -/
def applyObserved (userId : Uuid) (paymentIntentId : String) (creditedUsd : Decimal)
    (next : Statements) : List ObservedReversal → Statements
  | [] => next
  | observed :: rest =>
      let following := applyObserved userId paymentIntentId creditedUsd next rest
      if observed.tombstone.covers creditedUsd ∧ observed.alreadyReversed = false then
        moveBalance userId (-creditedUsd)
          (refundEntry userId creditedUsd observed.tombstone.objectId paymentIntentId
            (reversalNote observed.tombstone))
          following
      else following

/-- `apply_observed_reversals`, inside its caller's transaction. -/
def applyObservedReversals (userId : Uuid) (paymentIntentId : String) (creditedUsd : Decimal)
    (next : Statements) (observed : List ObservedReversal) : Statements :=
  if observed.isEmpty then next
  else .declareReversal (applyObserved userId paymentIntentId creditedUsd next observed)

/-- `credit_purchase`. -/
def creditPurchase (userId : Uuid) (amountUsd : Decimal) (stripeSessionId : String)
    (stripePaymentIntentId : Option String) (alreadyApplied : Bool)
    (observed : List ObservedReversal) : Statements :=
  if amountUsd ≤ 0 then .rollback
  else if (trim stripeSessionId).toList.isEmpty then .rollback
  else
    let credit (next : Statements) : Statements :=
      if alreadyApplied then .rollback
      else
        moveBalance userId amountUsd
          (purchaseEntry userId amountUsd stripeSessionId stripePaymentIntentId) next
    .lock (userLock userId) <|
      match stripePaymentIntentId with
      | none => credit .commit
      | some paymentIntentId =>
          .lock (intentLock paymentIntentId) <|
            credit (applyObservedReversals userId paymentIntentId amountUsd .commit observed)

/-- `grant_promo`; nothing to grant is nothing to do. -/
def grantPromo (userId : Uuid) (amountUsd : Decimal) (note : String) : Statements :=
  if amountUsd = 0 then .rollback
  else if amountUsd < 0 then .rollback
  else
    .lock (userLock userId) <|
      moveBalance userId amountUsd (notedEntry userId .promo amountUsd note) .commit

/-- `reverse_purchase`: the credit is looked up before its user can be locked. -/
def reversePurchase (paymentIntentId stripeObjectId note : String)
    (credited : Option (Uuid × Decimal)) (alreadyReversed : Bool) : Statements :=
  if (trim stripeObjectId).toList.isEmpty then .rollback
  else
    .declareReversal <|
      match credited with
      | none => .rollback
      | some (userId, amountUsd) =>
          .lock (userLock userId) <|
            if alreadyReversed then .rollback
            else
              moveBalance userId (-amountUsd)
                (refundEntry userId amountUsd stripeObjectId paymentIntentId note) .commit

/-- `write_off_receivable`: what is owed is read under the lock. -/
def writeOffReceivable (userId : Uuid) (note : String) : Statements :=
  if (trim note).toList.isEmpty then .rollback
  else
    .lock (userLock userId) <|
      .read userId fun
        | none => .rollback
        | some balance =>
            if 0 ≤ balance then .rollback
            else
              .update userId (fun _ => some 0) fun
                | none => .rollback
                | some balanceAfter =>
                    insertRow (notedEntry userId .writeoff (-balance) (trim note) balanceAfter)
                      .commit

/-- `record_recovery`: the account must be under review. -/
def recordRecovery (userId : Uuid) (amountUsd : Decimal) (note : String)
    (frozen reversed : Bool) : Statements :=
  if (trim note).toList.isEmpty then .rollback
  else if amountUsd ≤ 0 then .rollback
  else
    .lock (userLock userId) <|
      .read userId fun
        | none => .rollback
        | some balance =>
            if !frozen && !reversed && 0 ≤ balance then .rollback
            else
              moveBalance userId amountUsd (notedEntry userId .recovery amountUsd (trim note))
                .commit

/-- `settle_autopay_intent`.  A stored row at odds with the collection is failed and
    the failure committed; `succeeded` is what the pending row, if there was one, says
    to credit.  The credit is one conditional statement: an account not `armed`, or in
    debt, is credited nothing and the intent withheld. -/
def settleAutopayIntent (paymentIntentId : String) (mismatched : Bool)
    (succeeded : Option (Uuid × Decimal)) (armed : Bool) (observed : List ObservedReversal) :
    Statements :=
  if mismatched then .commit
  else
    match succeeded with
    | none => .rollback
    | some (userId, amountUsd) =>
        .lock (userLock userId) <|
          .lock (intentLock paymentIntentId) <|
            .update userId
              (fun balance => if armed && 0 ≤ balance then some (balance + amountUsd) else none) fun
              | none => .commit
              | some balanceAfter =>
                  insertRow (autopayEntry userId amountUsd paymentIntentId balanceAfter) <|
                    applyObservedReversals userId paymentIntentId amountUsd .commit observed

/-- `collect_period`: never more than the balance. -/
def collectPeriod (periodId : Uuid) (period : Option (Uuid × Option Decimal)) : Statements :=
  match period with
  | none => .rollback
  | some (userId, taxUsd) =>
      .lock (userLock userId) <|
        match taxUsd with
        | none => .rollback
        | some taxUsd =>
            if 0 < taxUsd then
              .read userId fun
                | none => .rollback
                | some balance =>
                    let collect := taxCollectable taxUsd balance
                    if 0 < collect then
                      moveBalance userId (-collect) (taxEntry userId collect periodId) .commit
                    else .commit
            else .commit

/-- Each writer's statements. -/
def statements : Writer → Statements
  | .settleOnce userId reservationId requireCredits read =>
      settleOnce userLock userId reservationId requireCredits read
  | .creditPurchase userId amountUsd stripeSessionId stripePaymentIntentId alreadyApplied observed =>
      creditPurchase userLock intentLock userId amountUsd stripeSessionId stripePaymentIntentId
        alreadyApplied observed
  | .grantPromo userId amountUsd note => grantPromo userLock userId amountUsd note
  | .reversePurchase paymentIntentId stripeObjectId note credited alreadyReversed =>
      reversePurchase userLock paymentIntentId stripeObjectId note credited alreadyReversed
  | .writeOffReceivable userId note => writeOffReceivable userLock userId note
  | .recordRecovery userId amountUsd note frozen reversed =>
      recordRecovery userLock userId amountUsd note frozen reversed
  | .settleAutopayIntent paymentIntentId mismatched succeeded armed observed =>
      settleAutopayIntent userLock intentLock paymentIntentId mismatched succeeded armed observed
  | .collectPeriod periodId period => collectPeriod userLock periodId period

end Programs

abbrev Ledger := Store Uuid Int Decimal LedgerTag

/-- One step of the writers together: a user signs up, a writer begins, a transaction
    runs its next statement, or one is lost. -/
def step (userLock : Uuid → Int) (intentLock : String → Int) (ledger : Ledger) :
    Journal.Action Uuid Writer → Option Ledger :=
  Journal.step ledgerCheck (statements userLock intentLock) ledger

/-- Any run of the writers. -/
abbrev Reaches (userLock : Uuid → Int) (intentLock : String → Int) : Ledger → Ledger → Prop :=
  Transition.Steps (step userLock intentLock) Transition.anyStep

end Writers

end ZeroRouter
