import ZeroRouter.Writers

/-!
# The ledger explains every balance

Each writer is disciplined: it takes the user's lock before it reads or moves the
balance, and the row it inserts states the movement it just made.  `Journal` has the
rest: in every run, each user's rows in id order carry the balance from zero to what
`users` holds.
-/

namespace ZeroRouter

namespace Writers

open Journal Relational List

variable {delta : Decimal} {entry : Decimal → CreditLedger} {userId : Uuid}

/-- Only a refund may leave or deepen a debt. -/
def refunds (tag : LedgerTag) : Prop := tag.entryType = .refund

/-- A row states the movement it explains. -/
structure States (entry : Decimal → CreditLedger) (userId : Uuid) (delta : Decimal) : Prop where
  user : ∀ balanceAfter, (entry balanceAfter).userId = userId
  amount : ∀ balanceAfter, (entry balanceAfter).amountUsd = delta
  balance : ∀ balanceAfter, (entry balanceAfter).balanceAfterUsd = balanceAfter

section Discipline

variable {userLock : Uuid → Int} {intentLock : String → Int} {locks : List Int} {reversal : Bool}
  {known : Option (Uuid × Decimal)} {next : Statements} {userId : Uuid} {paymentIntentId : String}
  {creditedUsd : Decimal}

theorem disciplined_insertRow {row : CreditLedger} {balanceAfter : Decimal}
    (user : row.userId = userId) (amount : row.amountUsd = delta)
    (balance : row.balanceAfterUsd = balanceAfter)
    (refund : reversal = true → delta < 0 → row.entryType = .refund)
    (hnext : Disciplined userLock refunds next locks reversal (.clear none)) :
    Disciplined userLock refunds (insertRow row next) locks reversal
      (.owes userId delta balanceAfter) := by
  subst user amount balance
  exact .insert refund hnext

/-- A movement and its row, under the user's lock. -/
theorem disciplined_moveBalance (held : userLock userId ∈ locks)
    (states : States entry userId delta)
    (refund : reversal = true → delta < 0 → ∀ balanceAfter, (entry balanceAfter).entryType = .refund)
    (hnext : Disciplined userLock refunds next locks reversal (.clear none)) :
    Disciplined userLock refunds (moveBalance userId delta entry next) locks reversal
      (.clear known) := by
  refine .update held ?_ .rollback
  intro old new _ written
  obtain rfl := Option.some.inj written
  rw [add_sub_cancel_left]
  exact disciplined_insertRow (states.user _) (states.amount _) (states.balance _)
    (fun declared taken => refund declared taken _) hnext

/-- Before a reversal is declared a row needs no particular type. -/
theorem disciplined_undeclared (held : userLock userId ∈ locks)
    (states : States entry userId delta)
    (hnext : Disciplined userLock refunds next locks false (.clear none)) :
    Disciplined userLock refunds (moveBalance userId delta entry next) locks false
      (.clear known) :=
  disciplined_moveBalance held states (by simp) hnext

theorem states_refundEntry (userId : Uuid) (creditedUsd : Decimal)
    (objectId paymentIntentId note : String) :
    States (refundEntry userId creditedUsd objectId paymentIntentId note) userId (-creditedUsd) :=
  ⟨fun _ => rfl, fun _ => rfl, fun _ => rfl⟩

theorem disciplined_applyObserved (held : userLock userId ∈ locks)
    (observed : List ObservedReversal)
    (hnext : Disciplined userLock refunds next locks reversal (.clear none)) :
    Disciplined userLock refunds (applyObserved userId paymentIntentId creditedUsd next observed)
      locks reversal (.clear none) := by
  induction observed with
  | nil => exact hnext
  | cons first rest ih =>
      unfold applyObserved
      dsimp only
      split
      · apply disciplined_moveBalance held (states_refundEntry _ _ _ _ _)
        · intro _ _ _
          rfl
        · exact ih
      · exact ih

theorem disciplined_applyObservedReversals (held : userLock userId ∈ locks)
    (observed : List ObservedReversal)
    (hnext : ∀ reversal, Disciplined userLock refunds next locks reversal (.clear none)) :
    Disciplined userLock refunds
      (applyObservedReversals userId paymentIntentId creditedUsd next observed)
      locks false (.clear none) := by
  unfold applyObservedReversals
  split
  · exact hnext false
  · exact .declareReversal (disciplined_applyObserved held observed (hnext true))

theorem disciplined_settleOnce (userId reservationId : Uuid) (requireCredits : Bool)
    (read : SettlementRead) :
    Disciplined userLock refunds (settleOnce userLock userId reservationId requireCredits read)
      [] false (.clear none) := by
  apply Disciplined.lock
  cases read with
  | missing => exact .rollback
  | duplicate => exact .rollback
  | found costUsd reservedCostUsd =>
      dsimp only
      split
      · apply disciplined_undeclared mem_cons_self
        · exact ⟨fun _ => rfl, fun _ => rfl, fun _ => rfl⟩
        · exact .commit
      · exact .commit

theorem disciplined_creditPurchase (userId : Uuid) (amountUsd : Decimal) (stripeSessionId : String)
    (stripePaymentIntentId : Option String) (alreadyApplied : Bool)
    (observed : List ObservedReversal) :
    Disciplined userLock refunds
      (creditPurchase userLock intentLock userId amountUsd stripeSessionId stripePaymentIntentId
        alreadyApplied observed) [] false (.clear none) := by
  have states : States
      (purchaseEntry userId amountUsd stripeSessionId stripePaymentIntentId) userId amountUsd :=
    ⟨fun _ => rfl, fun _ => rfl, fun _ => rfl⟩
  unfold creditPurchase
  split
  · exact .rollback
  split
  · exact .rollback
  apply Disciplined.lock
  cases stripePaymentIntentId with
  | none =>
      dsimp only
      split
      · exact .rollback
      · exact disciplined_undeclared mem_cons_self states .commit
  | some paymentIntentId =>
      apply Disciplined.lock
      dsimp only
      split
      · exact .rollback
      · have held : userLock userId ∈ [intentLock paymentIntentId, userLock userId] := by simp
        apply disciplined_undeclared held states
        exact disciplined_applyObservedReversals held observed fun _ => .commit

theorem disciplined_grantPromo (userId : Uuid) (amountUsd : Decimal) (note : String) :
    Disciplined userLock refunds (grantPromo userLock userId amountUsd note)
      [] false (.clear none) := by
  unfold grantPromo
  split
  · exact .rollback
  split
  · exact .rollback
  apply Disciplined.lock
  apply disciplined_undeclared mem_cons_self
  · exact ⟨fun _ => rfl, fun _ => rfl, fun _ => rfl⟩
  · exact .commit

theorem disciplined_reversePurchase (paymentIntentId stripeObjectId note : String)
    (credited : Option (Uuid × Decimal)) (alreadyReversed : Bool) :
    Disciplined userLock refunds
      (reversePurchase userLock paymentIntentId stripeObjectId note credited alreadyReversed)
      [] false (.clear none) := by
  unfold reversePurchase
  split
  · exact .rollback
  apply Disciplined.declareReversal
  cases credited with
  | none => exact .rollback
  | some credited =>
      apply Disciplined.lock
      split
      · exact .rollback
      · apply disciplined_moveBalance mem_cons_self (states_refundEntry _ _ _ _ _)
        · intro _ _ _
          rfl
        · exact .commit

theorem disciplined_writeOffReceivable (userId : Uuid) (note : String) :
    Disciplined userLock refunds (writeOffReceivable userLock userId note)
      [] false (.clear none) := by
  unfold writeOffReceivable
  split
  · exact .rollback
  apply Disciplined.lock
  refine .read mem_cons_self ?_ .rollback
  intro balance
  dsimp only
  split
  · exact .rollback
  · refine .update mem_cons_self ?_ .rollback
    intro old new known written
    -- What is written off is what was read: the lock kept the balance still.
    obtain rfl : old = balance := known balance rfl
    obtain rfl := Option.some.inj written
    apply disciplined_insertRow rfl _ rfl
    · simp
    · exact .commit
    · exact (zero_sub old).symm

theorem disciplined_recordRecovery (userId : Uuid) (amountUsd : Decimal) (note : String)
    (frozen reversed : Bool) :
    Disciplined userLock refunds
      (recordRecovery userLock userId amountUsd note frozen reversed)
      [] false (.clear none) := by
  unfold recordRecovery
  split
  · exact .rollback
  split
  · exact .rollback
  apply Disciplined.lock
  refine .read mem_cons_self ?_ .rollback
  intro balance
  dsimp only
  split
  · exact .rollback
  · apply disciplined_undeclared mem_cons_self
    · exact ⟨fun _ => rfl, fun _ => rfl, fun _ => rfl⟩
    · exact .commit

theorem disciplined_settleAutopayIntent (paymentIntentId : String) (mismatched : Bool)
    (succeeded : Option (Uuid × Decimal)) (armed : Bool) (observed : List ObservedReversal) :
    Disciplined userLock refunds
      (settleAutopayIntent userLock intentLock paymentIntentId mismatched succeeded armed observed)
      [] false (.clear none) := by
  unfold settleAutopayIntent
  split
  · exact .commit
  cases succeeded with
  | none => exact .rollback
  | some succeeded =>
      obtain ⟨userId, amountUsd⟩ := succeeded
      have held : userLock userId ∈ [intentLock paymentIntentId, userLock userId] := by simp
      apply Disciplined.lock
      apply Disciplined.lock
      refine .update held ?_ .commit
      intro old new _ written
      obtain ⟨-, credited⟩ := Option.ite_none_right_eq_some.mp written
      obtain rfl := Option.some.inj credited
      rw [add_sub_cancel_left]
      apply disciplined_insertRow rfl rfl rfl
      · simp
      · exact disciplined_applyObservedReversals held observed fun _ => .commit

theorem disciplined_collectPeriod (periodId : Uuid) (period : Option (Uuid × Option Decimal)) :
    Disciplined userLock refunds (collectPeriod userLock periodId period)
      [] false (.clear none) := by
  unfold collectPeriod
  split
  · exact .rollback
  next userId taxUsd =>
    apply Disciplined.lock
    split
    · exact .rollback
    split
    · refine .read mem_cons_self ?_ .rollback
      intro balance
      dsimp only
      split
      · apply disciplined_undeclared mem_cons_self
        · exact ⟨fun _ => rfl, fun _ => rfl, fun _ => rfl⟩
        · exact .commit
      · exact .commit
    · exact .commit

/-- Every writer is disciplined, whatever it reads. -/
theorem disciplined_statements (writer : Writer) :
    Disciplined userLock refunds (statements userLock intentLock writer) [] false
      (.clear none) := by
  cases writer <;> rw [statements]
  case settleOnce => exact disciplined_settleOnce ..
  case creditPurchase => exact disciplined_creditPurchase ..
  case grantPromo => exact disciplined_grantPromo ..
  case reversePurchase => exact disciplined_reversePurchase ..
  case writeOffReceivable => exact disciplined_writeOffReceivable ..
  case recordRecovery => exact disciplined_recordRecovery ..
  case settleAutopayIntent => exact disciplined_settleAutopayIntent ..
  case collectPeriod => exact disciplined_collectPeriod ..

end Discipline

/-! ## The statements and the database -/

/-- The trigger is the one the database model has. -/
theorem overdraws_eq (creditReversal : Bool) (old new : Decimal) :
    overdraws creditReversal old new = overdraftRejected creditReversal old new := rfl

/-- The balance `users` holds. -/
def heldBalance (users : Table usersTable) (userId : Uuid) : Option Decimal :=
  (users.find fun user => user.id = userId).map User.creditBalanceUsd

theorem heldBalance_moved {users users' : Table usersTable}
    (h : users.updateWhere (fun row => row.id = userId)
      (fun row => { row with creditBalanceUsd := row.creditBalanceUsd + delta }) = .ok users')
    (other : Uuid) :
    heldBalance users' other =
      (heldBalance users other).map fun balance => balance + if other = userId then delta else 0 := by
  unfold heldBalance
  rw [Table.find_updateWhere h fun user => by unfold Table.rewrite; split <;> rfl]
  cases found : users.find fun user => user.id = other with
  | none => rfl
  | some user =>
      obtain rfl := (Table.find_some found).2
      by_cases here : user.id = userId <;> simp [Table.rewrite, here]

/-- A transaction sees the balances and the ledger of a database. -/
structure Sees (ledger : Ledger) (t : Txn Uuid Int Decimal LedgerTag) (db : Db) : Prop where
  balances : ∀ userId, t.value ledger.balances userId = heldBalance db.users userId
  rows : (ledger.log ++ t.rows).map toRow = db.creditLedger.rows

/-- A user with nothing, granted five dollars. -/
def grantee : Table usersTable where
  rows := [{ id := 4, creditBalanceUsd := 0, frozenAt := none, frozenReason := none }]
  checked := by decide
  distinct := by decide

def granting : Txn Uuid Int Decimal LedgerTag :=
  .start (moveBalance 4 5 (notedEntry 4 .promo 5 "welcome") .commit)

def granted : Ledger where
  balances userId := heldBalance grantee userId
  log := []
  nextId := 1
  txns := [granting]

/-- A user's rows, by id. -/
def rowsOf (ledger : Ledger) (userId : Uuid) : List LedgerEntry :=
  (entriesOf ledger.log userId).mergeSort fun a b => a.id ≤ b.id

/-- The user's rows explain the balance: each adds its amount to what the one before
    left, the last left the balance, and only a refund goes into or deeper into debt. -/
structure ExplainedBy (rows : List LedgerEntry) (balance : Decimal) : Prop where
  adds : ∀ n row, rows[n]? = some row →
    standing 0 rows (n + 1) = standing 0 rows n + row.amount
  leaves : standing 0 rows rows.length = balance
  moves : ∀ row ∈ rows, row.amount ≠ 0
  refunds : ∀ n row, rows[n]? = some row → standing 0 rows (n + 1) < 0 →
    standing 0 rows (n + 1) < standing 0 rows n → row.tag.entryType = .refund

theorem explainedBy_of_explains {rows : List LedgerEntry} {balance : Decimal}
    (explains : Explains 0 rows balance) (admitted : ∀ row ∈ rows, Journal.Admitted ledgerCheck refunds row) :
    ExplainedBy rows balance where
  adds n row hrow := explains.standing_succ hrow
  leaves := explains.standing_length
  moves row hrow := (of_decide_eq_true (admitted row hrow).1).amountIsNonzero
  refunds n row hrow negative down := by
    have left : standing 0 rows (n + 1) = row.balanceAfter := by simp [standing, hrow]
    have taken : row.amount < 0 := by
      rw [explains.standing_succ hrow] at down
      exact neg_of_add_lt_right down
    exact (admitted row (mem_of_getElem? hrow)).2 (left ▸ negative) taken

/-- From users with nothing and no rows, whatever the writers do and however their
    statements interleave and their transactions fail: a user's rows explain the balance,
    and no row already there ever changes or goes. -/
theorem ledger_explains_balances {userLock : Uuid → Int} {intentLock : String → Int}
    {start ledger : Ledger} (opening : Opening start)
    (run : Reaches userLock intentLock start ledger) :
    (∀ userId balance, ledger.balances userId = some balance →
      ExplainedBy (rowsOf ledger userId) balance) ∧
    ∀ later, Reaches userLock intentLock ledger later → ledger.log <+: later.log := by
  have inv : Journal.Inv userLock ledgerCheck refunds ledger :=
    inv_of_run disciplined_statements opening run
  refine ⟨?_, fun later further => log_prefix_of_run further⟩
  intro userId balance found
  have sorted : rowsOf ledger userId = entriesOf ledger.log userId :=
    (inv.numbered userId).mergeSort
  rw [sorted]
  apply explainedBy_of_explains
  · simpa [found] using inv.explained userId
  · intro row hrow
    exact inv.admitted row (mem_entriesOf.mp hrow).1

/-- No user, no row, nothing under way. -/
def noUsers : Ledger where
  balances _ := none
  log := []
  nextId := 1
  txns := []

/-- A purchase and its later reversal, a grant that waits for the first to commit, one
    that rolls back after it was numbered, and another user's grant in between. -/
def interleaved : List (Journal.Action Uuid Writer) :=
  [.openAccount 1, .openAccount 2,
    .begin_ (.creditPurchase 1 10 "cs_1" (some "pi_1") false []),
    .begin_ (.grantPromo 1 5 "welcome"),
    .begin_ (.grantPromo 2 3 "welcome"),
    .exec 0, .exec 0, .exec 2, .exec 0, .exec 2, .exec 2, .exec 0, .exec 2, .exec 0,
    .exec 0, .exec 0, .exec 0, .abort 0,
    .begin_ (.reversePurchase "pi_1" "ch_1" "refund" (some (1, 10)) false),
    .exec 0, .exec 0, .exec 0, .exec 0, .exec 0]

theorem ledger_explains_balances_interleaved :
    ∃ ledger : Ledger, ledger.log.map (fun row => (row.id, row.account, row.amount)) =
        [(1, 2, 3), (2, 1, 10), (4, 1, -10)] ∧
      ledger.balances 1 = some 0 ∧ ExplainedBy (rowsOf ledger 1) 0 := by
  have runs : (Transition.runWhile (step (fun user => user) (fun _ => -1)) Transition.anyStep
      noUsers interleaved).any (fun ledger =>
        ledger.log.map (fun row => (row.id, row.account, row.amount)) =
            [(1, 2, 3), (2, 1, 10), (4, 1, -10)] ∧
          ledger.balances 1 = some 0) = true := by
    decide +kernel
  obtain ⟨ledger, run, hledger⟩ := Transition.Steps.exists_of_runWhile runs
  obtain ⟨rows, balance⟩ := of_decide_eq_true hledger
  have opening : Opening noUsers := ⟨by simp [noUsers], rfl, rfl⟩
  exact ⟨ledger, rows, balance, (ledger_explains_balances opening run).1 1 0 balance⟩

end Writers

end ZeroRouter
