import ZeroRouter.Db.Schema
import ZeroRouter.Lib.Run

/-!
# Enrolling a user into redemption tax

`src/router/src/redemption_tax.rs` `enroll_users` is one `UPDATE` under `READ
COMMITTED`, run beside the settlements and credits of the user it enrols.  Every
statement reads the snapshot taken when it began.  An `UPDATE` that has to wait
for a row's lock goes on from the newest committed version of that row, which it
checks its `WHERE` against once more; the tables its expressions select from it
still reads in the snapshot.

A settlement or a credit writes the user's row first, which takes the row's lock
until its transaction ends, and then inserts the `credit_ledger` row that explains
it, whose `id` the table's sequence gives out at that moment.
-/

namespace ZeroRouter

namespace Redemption

/-- A `credit_ledger` row of the user. -/
structure LedgerRow where
  id : Nat
  entryType : EntryType
  amountUsd : Decimal
  deriving DecidableEq, Repr

/-- The `redemption_tax_*` columns of `users`, which are set together
    (`users_redemption_tax_enrollment_is_complete`). -/
structure Enrolled where
  enrolledAt : Timestamp
  fromLedgerId : Nat
  exemptRemainingUsd : Decimal
  deriving DecidableEq, Repr

structure UserRow where
  creditBalanceUsd : Decimal
  createdAt : Timestamp
  redemptionTax : Option Enrolled
  deriving DecidableEq, Repr

/-- `COALESCE((SELECT MAX(l.id) …), 0)`. -/
def maxLedgerId (ledger : List LedgerRow) : Nat := (ledger.map LedgerRow.id).max?.getD 0

/-- The dollars of the rows that come after a ledger id. -/
def amountAfter (ledger : List LedgerRow) (cursor : Nat) : Decimal :=
  ((ledger.filter fun row => cursor < row.id).map LedgerRow.amountUsd).sum

namespace Enrollment

/-- An enrolling `UPDATE` under way, with the snapshot it reads. -/
structure Statement where
  now : Timestamp
  activation : Timestamp
  user : UserRow
  ledger : List LedgerRow
  deriving DecidableEq, Repr

/-- The `SET` of `enroll_users`, over the version of the row it holds the lock on. -/
def Statement.enroll (statement : Statement) (version : UserRow) : Enrolled where
  enrolledAt := statement.now
  fromLedgerId := maxLedgerId statement.ledger
  exemptRemainingUsd :=
    if version.createdAt < statement.activation then max version.creditBalanceUsd 0 else 0

/-- The transaction that holds the lock on the user's row, and what it has written. -/
inductive Holder where
  | money (entryType : EntryType) (amountUsd : Decimal) (row : Option LedgerRow)
  | enrolling (statement : Statement) (version : UserRow)
  deriving DecidableEq, Repr

/-- What is committed, and the transactions under way.  `enrolledBy` remembers the
    statement that enrolled the user and the version of the row it wrote from. -/
structure State where
  user : UserRow
  ledger : List LedgerRow
  nextLedgerId : Nat
  holder : Option Holder
  waiting : List Statement
  enrolledBy : Option (Statement × UserRow)
  deriving DecidableEq, Repr

inductive Action where
  /-- `UPDATE users SET credit_balance_usd = credit_balance_usd + amount`. -/
  | move (entryType : EntryType) (amountUsd : Decimal)
  /-- `INSERT INTO credit_ledger`, in the same transaction. -/
  | insertLedger
  | commit
  | rollback
  /-- Another user's row takes a ledger id. -/
  | burnLedgerId
  /-- A sweep's `UPDATE` begins and takes its snapshot. -/
  | startEnroll (now activation : Timestamp)
  /-- A waiting `UPDATE` gets the lock on the row. -/
  | lockRow (i : Nat)
  /-- A waiting `UPDATE` fails. -/
  | abandon (i : Nat)
  deriving DecidableEq, Repr

/-- One step; `none` when the action is not enabled. -/
def step (s : State) : Action → Option State
  | .move entryType amountUsd =>
      if s.holder = none then some { s with holder := some (.money entryType amountUsd none) }
      else none
  | .insertLedger =>
      match s.holder with
      | some (.money entryType amountUsd none) =>
          some { s with
            holder := some (.money entryType amountUsd
              (some { id := s.nextLedgerId, entryType, amountUsd }))
            nextLedgerId := s.nextLedgerId + 1 }
      | _ => none
  | .commit =>
      match s.holder with
      | some (.money _ amountUsd (some row)) =>
          some { s with
            user := { s.user with creditBalanceUsd := s.user.creditBalanceUsd + amountUsd }
            ledger := s.ledger ++ [row]
            holder := none }
      | some (.enrolling statement version) =>
          some { s with
            user := { version with redemptionTax := some (statement.enroll version) }
            holder := none
            enrolledBy := some (statement, version) }
      | _ => none
  | .rollback => if s.holder = none then none else some { s with holder := none }
  | .burnLedgerId => some { s with nextLedgerId := s.nextLedgerId + 1 }
  | .startEnroll now activation =>
      -- A row the snapshot shows enrolled is not a row of this `UPDATE`.
      if s.user.redemptionTax = none then
        some { s with waiting := s.waiting ++ [{ now, activation, user := s.user,
                                                 ledger := s.ledger }] }
      else none
  | .lockRow i =>
      if s.holder = none then
        s.waiting[i]?.map fun statement =>
          { s with
            holder := if s.user.redemptionTax = none then some (.enrolling statement s.user)
              else none
            waiting := s.waiting.eraseIdx i }
      else none
  | .abandon i => s.waiting[i]?.map fun _ => { s with waiting := s.waiting.eraseIdx i }

/-- A user no sweep has seen, at rest, with any ledger and any balance; a sequence
    starts at one. -/
structure State.Opening (s : State) : Prop where
  started : 0 < s.nextLedgerId
  unseen : s.user.redemptionTax = none
  unlocked : s.holder = none
  idle : s.waiting = []
  unenrolled : s.enrolledBy = none
  issued : ∀ row ∈ s.ledger, row.id < s.nextLedgerId

/-- The balance after exactly the user's ledger rows up to a cursor. -/
def State.balanceThrough (s : State) (cursor : Nat) : Decimal :=
  s.user.creditBalanceUsd - amountAfter s.ledger cursor

end Enrollment

end Redemption

end ZeroRouter
