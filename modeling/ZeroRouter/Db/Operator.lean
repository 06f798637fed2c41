import ZeroRouter.Db.Settle
import Mathlib.Data.List.Sort

/-!
# Recovery and operator resolution

The recovery sweep, the operator's collection and the operator's release of a
quarantined reservation (`src/router/src/db.rs`, `recover_owed_settlements` to
`release_quarantined_reservation`).  The recovery passes read a batch first and
replay it row by row afterwards, each row in a transaction of its own, so the
read and the replay are separate definitions.
-/

namespace ZeroRouter

open Relational

/-- `SETTLEMENT_RECOVERY_GRACE`, sixty seconds. -/
def settlementRecoveryGrace : Timestamp := 60 * 1000000

/-- One row a recovery pass read, to be replayed later. -/
structure OwedSettlement where
  reservationId : Uuid
  apiKeyId : Uuid
  payload : SettlementPayload
  deriving DecidableEq, Repr

def UsageReservation.owedSettlement? (row : UsageReservation) : Option OwedSettlement :=
  row.settlementIntent.map fun payload =>
    { reservationId := row.id, apiKeyId := row.apiKeyId, payload }

/-- The batch `recover_owed_settlements` reads. -/
def Db.owedSettlements (db : Db) (now : Timestamp) (limit : Int) : List OwedSettlement :=
  let due := db.usageReservations.rows.filter fun row =>
    row.settlementIntent ≠ none ∧ row.quarantinedAt = none ∧
      ∃ at' ∈ row.settlementIntentAt, at' ≤ now - settlementRecoveryGrace
  let oldestFirst := due.insertionSort fun a b =>
    a.settlementIntentAt.getD 0 ≤ b.settlementIntentAt.getD 0
  (oldestFirst.take (max limit 0).toNat).filterMap UsageReservation.owedSettlement?

/-- The row `recover_quarantined_settlement` reads and whether it was released. -/
def Db.quarantinedSettlement (db : Db) (requestId : Uuid) :
    Option (OwedSettlement × Option Timestamp) :=
  (db.usageReservations.find fun row => row.id = requestId ∧ row.settlementIntent ≠ none).bind
    fun row => row.owedSettlement?.map fun owed => (owed, row.releasedAt)

/-- What the operator's reconciliation queue shows of a row. -/
structure QuarantinedSettlement where
  requestId : Uuid
  apiKeyId : Uuid
  quarantinedAt : Timestamp
  settleAttempts : Int
  reservedCostUsd : Decimal
  owedCostUsd : Option Decimal
  lastSettleError : Option String
  deriving DecidableEq, Repr

def UsageReservation.quarantinedSettlement? (row : UsageReservation) :
    Option QuarantinedSettlement :=
  row.quarantinedAt.map fun quarantinedAt =>
    { requestId := row.id
      apiKeyId := row.apiKeyId
      quarantinedAt
      settleAttempts := row.settleAttempts
      reservedCostUsd := row.reservedCostUsd
      owedCostUsd := row.settlementIntent.bind SettlementPayload.owedCostUsd
      lastSettleError := row.lastSettleError }

/-- `quarantined_settlements`. -/
def Db.quarantinedSettlements (db : Db) (limit : Int) : List QuarantinedSettlement :=
  let parked := db.usageReservations.rows.filter fun row =>
    row.quarantinedAt ≠ none ∧ row.releasedAt = none
  let oldestFirst := parked.insertionSort fun a b =>
    a.quarantinedAt.getD 0 ≤ b.quarantinedAt.getD 0
  (oldestFirst.take (max limit 0).toNat).filterMap UsageReservation.quarantinedSettlement?

/-! ## Release -/

inductive ReservationRelease where
  | released (releasedAt : Timestamp) (owed : Bool) (forgivenUsd : Option Decimal)
  | alreadyReleased (releasedAt : Timestamp) (note : Option String)
  | refused (reason : String)
  deriving DecidableEq, Repr

def noReservation (requestId : Uuid) : String :=
  s!"no reservation {requestId} exists; a settled or reclaimed request leaves no row, " ++
    "a free-lane request never had one, and only a quarantined one can be released"

def stillLive (requestId : Uuid) : String :=
  s!"reservation {requestId} is still live; a running request is finished by settlement, " ++
    "not released"

def notQuarantined (requestId : Uuid) : String :=
  s!"reservation {requestId} is expired but not quarantined; the expiry sweep resolves " ++
    "those, and it has not run on this one yet"

def stillOwes (requestId : Uuid) (amount : String) : String :=
  s!"reservation {requestId} still owes {amount} and its settlement payload can be " ++
    s!"replayed; collect it with `zerorouter admin settle-owed --request-id {requestId}`, " ++
    "or pass --forgive to give that charge up"

/-- How an owed amount reads in a refusal. -/
def owedAmount (owedCostUsd : Option Decimal) : String :=
  owedCostUsd.elim "an amount its payload does not state readably" fun amount => s!"${amount}"

/-- `release_quarantined_reservation`.  The source resolves the owner before it
    takes the owner's lock and re-reads the row under it; nothing is decided on
    the first read, and a row missing at either read is the same refusal. -/
def Db.releaseQuarantinedReservation (db : Db) (now : Timestamp) (requestId : Uuid)
    (note : String) (forgive : Bool) : Except SqlError (ReservationRelease × Db) := do
  ensure ((trim note).toList.isEmpty = false)
    (SqlError.protocol "a reservation release must state its reason")
  match db.usageReservations.find fun row => row.id = requestId with
  | none => return (.refused (noReservation requestId), db)
  | some row =>
      let owed := row.settlementIntent.isSome
      let owedCostUsd := row.settlementIntent.bind SettlementPayload.owedCostUsd
      match row.releasedAt with
      | some releasedAt => return (.alreadyReleased releasedAt row.releasedNote, db)
      | none =>
          if row.quarantinedAt = none then
            return (.refused
              (if now < row.expiresAt then stillLive requestId else notQuarantined requestId), db)
          else if owed && !forgive then
            return (.refused (stillOwes requestId (owedAmount owedCostUsd)), db)
          else do
            let usageReservations ← liftViolation (db.usageReservations.updateWhere
              (fun row => row.id = requestId ∧ row.releasedAt = none)
              fun row => { row with releasedAt := some now, releasedNote := some (trim note) })
            return (.released now owed (if owed then owedCostUsd else none),
              { db with usageReservations })

end ZeroRouter
