import ZeroRouter.Db.Admission

/-!
# Settlement

`src/router/src/db.rs` `settle_once` and the statements that surround it: the
dispatch mark, the durable intent, the failure stamp, the operator quarantine
and the guarded discard.  Each definition is one transaction or one
autocommitted statement; an error means it rolled back.
-/

namespace ZeroRouter

open Relational

/-- `checked_token_count`. -/
def checkedTokenCount (value : Nat) (field : String) : Except SqlError Int :=
  if (value : Int) ≤ i32Max then .ok value
  else .error (.protocol s!"{field} exceeds the database integer range")

/-! ## Before the settle -/

/-- `DispatchMarker::fire`: best effort, and a mark once made is kept. -/
def Db.markDispatched (db : Db) (now : Timestamp) (reservationId apiKeyId : Uuid) :
    Except SqlError Db := do
  let usageReservations ← liftViolation (db.usageReservations.updateWhere
    (fun row => row.id = reservationId ∧ row.apiKeyId = apiKeyId ∧ row.dispatchedAt = none)
    fun row => { row with dispatchedAt := some now })
  return { db with usageReservations }

/-- `UsageSession::persist_intent`. -/
def Db.persistIntent (db : Db) (now : Timestamp) (requestId apiKeyId : Uuid)
    (payload : SettlementPayload) : Except SqlError Db := do
  let usageReservations ← liftViolation (db.usageReservations.updateWhere
    (fun row => row.id = requestId ∧ row.apiKeyId = apiKeyId)
    fun row => { row with settlementIntent := some payload, settlementIntentAt := some now })
  return { db with usageReservations }

/-! ## `settle_once` -/

/-- How the settle transaction ended.  `duplicate` is the unique violation on the
    metering row: the caller rolls back, runs `discardSettledReservation` as a
    statement of its own and reports `AlreadySettled`. -/
inductive SettleStep where
  | settled
  | alreadySettled
  | forgiven
  | duplicate
  deriving DecidableEq, Repr

/-- The charge and the catalog cost it consumes allowance by.  A house request
    (`byok_catalog_usd` `NULL`) is charged what it was priced at. -/
def Db.priceSettlement (db : Db) (now : Timestamp) (userId : Uuid) (record : UsageRecord) :
    Except SqlError (Decimal × Option Decimal) :=
  match record.byokCatalogUsd with
  | none => .ok (record.costUsd, none)
  | some catalog =>
      let consumed := db.userMonthlyByokCatalog now userId
      match applyFee (billableAboveAllowance catalog consumed) feeRate with
      | none =>
          .error (.protocol "BYOK fee overflowed while pricing against the monthly allowance")
      | some fee => .ok (min fee record.costUsd, some catalog)

/-- The four checked counts, before the clamps the row applies to them. -/
structure TokenCounts where
  input : Int
  cachedInput : Int
  cacheWriteInput : Int
  output : Int
  deriving DecidableEq, Repr

def tokenCounts (usage : OpenAiUsage) : Except SqlError TokenCounts := do
  let input ← checkedTokenCount usage.promptTokens "prompt_tokens"
  let cachedInput ← checkedTokenCount usage.cachedInputTokens "cached_input_tokens"
  let cacheWriteInput ← checkedTokenCount usage.cacheWriteTokens "cache_write_input_tokens"
  let output ← checkedTokenCount usage.completionTokens "completion_tokens"
  return { input, cachedInput, cacheWriteInput, output }

/-- The `usage_events` row of a metered request. -/
def settledEvent (now : Timestamp) (reservationId apiKeyId : Uuid) (intent : SettlementIntent)
    (counts : TokenCounts) (costUsd : Decimal) (byokCatalogUsd : Option Decimal) : UsageEvent :=
  let record := intent.toRecord
  let attemptsCogs := AttemptCogs.summarize record.attempts
  let cachedInput := min counts.cachedInput counts.input
  { requestId := reservationId
    apiKeyId := apiKeyId
    ts := now
    tier := record.tier
    upstreamProvider := record.upstreamProvider
    upstreamModel := record.upstreamModel
    inputTokens := counts.input
    cachedInputTokens := cachedInput
    outputTokens := counts.output
    costUsd := costUsd
    latencyMs := record.latencyMs
    status := record.status
    attemptsCostBasisUsd := attemptsCogs.total
    attemptsCostBasisComplete := attemptsCogs.complete
    attemptCount :=
      if record.attempts.isEmpty then none else some (min record.attempts.length 32767)
    reservedOutputTokens := some intent.reservedOutputTokens
    reservedCostUsd := some intent.reservedCostUsd
    estimatorBasis := some intent.estimatorBasis
    byok := record.byok
    byokCatalogUsd := byokCatalogUsd
    cacheWriteInputTokens := some (min counts.cacheWriteInput (counts.input - cachedInput)) }

/-- One row of the walk ledger.  An unknown token dimension stays `NULL`. -/
def attemptRow (reservationId apiKeyId userId : Uuid) (attempt : AttemptRecord) :
    Except SqlError RequestAttempt := do
  let count (value : Option Nat) (field : String) : Except SqlError (Option Int) :=
    match value with
    | none => .ok none
    | some tokens => (checkedTokenCount tokens field).map some
  let input ← count attempt.tokens.input "attempt_input_tokens"
  let cached ← count attempt.tokens.cachedInput "attempt_cached_input_tokens"
  let cached := cached.map fun cached => min cached (input.getD cached)
  let written ← count attempt.tokens.cacheWriteInput "attempt_cache_write_input_tokens"
  let written := written.map fun written => min written (input.getD written - cached.getD 0)
  let output ← count attempt.tokens.output "attempt_output_tokens"
  return {
    requestId := reservationId
    apiKeyId := apiKeyId
    userId := userId
    ts := attempt.startedAt
    attemptNo := attempt.attemptNo
    candidateId := attempt.candidateId
    upstreamProvider := attempt.upstreamProvider
    upstreamModel := attempt.upstreamModel
    outcome := attempt.outcome
    served := attempt.served
    latencyMs := attempt.latencyMs
    inputTokens := input
    cachedInputTokens := cached
    cacheWriteInputTokens := written
    outputTokens := output
    tokensEstimated := attempt.tokensEstimated
    costBasisUsd := attempt.costBasisUsd }

/-- The attempts of the walk, inserted in order. -/
def insertAttempts (reservationId apiKeyId userId : Uuid) :
    List AttemptRecord → Table requestAttemptsTable →
      Except SqlError (Table requestAttemptsTable)
  | [], table => .ok table
  | attempt :: rest, table => do
      let row ← attemptRow reservationId apiKeyId userId attempt
      let table ← liftViolation (table.insert row)
      insertAttempts reservationId apiKeyId userId rest table

/-- The debit of the prepaid balance, clamped to what admission reserved.  The
    balance is touched only when credits gate admission, and a zero debit moves
    nothing and writes no ledger row. -/
def Db.debitUsage (db : Db) (intent : SettlementIntent) (reservationId : Uuid)
    (costUsd reservedCostUsd : Decimal) : Except SqlError Db :=
  let debit := min costUsd reservedCostUsd
  if intent.requireCredits ∧ 0 < debit then
    db.moveBalance intent.userId false (.protocol "usage settlement found no owning user") (-debit)
      fun balanceAfter =>
        { userId := intent.userId
          entryType := .usage
          amountUsd := -debit
          balanceAfterUsd := balanceAfter
          stripeSessionId := none
          stripePaymentIntentId := none
          requestId := some reservationId
          note := none }
  else .ok db

/-- The rows `DELETE FROM usage_reservations … RETURNING` consumes. -/
def UsageReservation.isSettlable (row : UsageReservation) (reservationId apiKeyId : Uuid) : Prop :=
  row.id = reservationId ∧ row.apiKeyId = apiKeyId ∧ row.releasedAt = none

instance (row : UsageReservation) (reservationId apiKeyId : Uuid) :
    Decidable (row.isSettlable reservationId apiKeyId) :=
  inferInstanceAs (Decidable (_ ∧ _ ∧ _))

/-- The settle transaction. -/
def Db.settleOnce (db : Db) (now : Timestamp) (reservationId apiKeyId : Uuid)
    (intent : SettlementIntent) : Except SqlError (SettleStep × Db) := do
  let record := intent.toRecord
  let counts ← tokenCounts record.usage
  match db.usageReservations.find fun row => row.isSettlable reservationId apiKeyId with
  | none =>
      if ∃ row ∈ db.usageReservations, row.id = reservationId ∧ row.releasedAt ≠ none then
        return (.forgiven, db)
      else if ∃ event ∈ db.usageEvents, event.requestId = reservationId then
        return (.alreadySettled, db)
      else
        Except.error
          (.protocol "usage reservation is missing and no settled row exists for it")
  | some reservation =>
      let consumed := { db with
        usageReservations := db.usageReservations.deleteWhere
          fun row => row.isSettlable reservationId apiKeyId }
      let (costUsd, byokCatalogUsd) ← consumed.priceSettlement now intent.userId record
      match consumed.insertUsageEvent
          (settledEvent now reservationId apiKeyId intent counts costUsd byokCatalogUsd) with
      | .error .uniqueViolation => return (.duplicate, db)
      | .error error => Except.error error
      | .ok metered =>
          let requestAttempts ← insertAttempts reservationId apiKeyId intent.userId
            record.attempts metered.requestAttempts
          let walked := { metered with requestAttempts }
          let debited ← walked.debitUsage intent reservationId costUsd reservation.reservedCostUsd
          return (.settled, debited)

/-! ## The free lane -/

/-- `UsageSession::observe_free_usage`: a metering row at zero cost, holding and
    debiting nothing.  Counts outside the database range write no row. -/
def Db.observeFreeUsage (db : Db) (now : Timestamp) (requestId apiKeyId : Uuid)
    (record : UsageRecord) : Except SqlError Db := do
  let counts ← tokenCounts record.usage
  let cachedInput := min counts.cachedInput counts.input
  db.insertUsageEvent
    { requestId := requestId
      apiKeyId := apiKeyId
      ts := now
      tier := record.tier
      upstreamProvider := record.upstreamProvider
      upstreamModel := record.upstreamModel
      inputTokens := counts.input
      cachedInputTokens := cachedInput
      outputTokens := counts.output
      costUsd := 0
      latencyMs := record.latencyMs
      status := record.status
      attemptsCostBasisUsd := none
      attemptsCostBasisComplete := none
      attemptCount :=
        if 1 ≤ record.attempts.length ∧ record.attempts.length ≤ 32767 then
          some record.attempts.length
        else none
      reservedOutputTokens := none
      reservedCostUsd := none
      estimatorBasis := none
      byok := record.byok
      byokCatalogUsd := none
      cacheWriteInputTokens := some (min counts.cacheWriteInput (counts.input - cachedInput)) }

/-! ## After a settle that failed -/

/-- `discard_settled_reservation`: only ever removes a reservation the ledger
    proves was settled. -/
def Db.discardSettledReservation (db : Db) (reservationId apiKeyId : Uuid) : Db :=
  { db with
    usageReservations := db.usageReservations.deleteWhere fun row =>
      row.id = reservationId ∧ row.apiKeyId = apiKeyId ∧
        ∃ event ∈ db.usageEvents, event.requestId = reservationId }

/-- `MAX_SETTLE_ATTEMPTS`. -/
def maxSettleAttempts : Int := 8

/-- `.chars().take(500)`, as both error columns are cut. -/
def truncateDetail (detail : String) : String := String.ofList (detail.toList.take 500)

/-- What `record_settle_failure` writes into the row it names. -/
def UsageReservation.settleFailed (row : UsageReservation) (now : Timestamp) (error : String) :
    UsageReservation :=
  { row with
    settleAttempts := row.settleAttempts + 1
    lastSettleError := some (truncateDetail error)
    quarantinedAt :=
      if row.settlementIntent = none then none
      else if row.quarantinedAt ≠ none then row.quarantinedAt
      else if row.settleAttempts + 1 ≥ maxSettleAttempts then some now
      else none }

/-- `record_settle_failure`: whether the row is now quarantined, or `none` when
    there is no row. -/
def Db.recordSettleFailure (db : Db) (now : Timestamp) (reservationId : Uuid) (error : String) :
    Except SqlError (Option Bool × Db) := do
  let usageReservations ← liftViolation (db.usageReservations.updateWhere
    (fun row => row.id = reservationId) fun row => row.settleFailed now error)
  let stamped := usageReservations.find fun row => row.id = reservationId
  return (stamped.map fun row => row.quarantinedAt.isSome, { db with usageReservations })

/-- `quarantine_settlement`. -/
def Db.quarantineSettlement (db : Db) (now : Timestamp) (reservationId : Uuid)
    (reason : String) : Except SqlError Db := do
  let usageReservations ← liftViolation (db.usageReservations.updateWhere
    (fun row => row.id = reservationId ∧ row.settlementIntent ≠ none)
    fun row =>
      { row with
        quarantinedAt := some (row.quarantinedAt.getD now)
        lastSettleError := some (truncateDetail reason) })
  return { db with usageReservations }

end ZeroRouter
