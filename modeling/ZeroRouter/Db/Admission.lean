import ZeroRouter.Db.Ledger
import ZeroRouter.Byok

/-!
# Admission

`src/router/src/db.rs` `begin_usage_session`: the one transaction that decides
whether a request may be dispatched and, on the reserved lane, writes the
reservation that holds its worst-case cost.  A refusal rolls the whole
transaction back, its expiry sweep included, so it returns the database it was
given.

`now` is the transaction's `NOW()`, the instant it began.
-/

namespace ZeroRouter

open Relational

/-- `RESERVATION_TTL`, twenty minutes. -/
def reservationTtl : Timestamp := 20 * 60 * 1000000

/-- `LEARNED_SIZING_CONCURRENCY_LIMIT`. -/
def learnedSizingConcurrencyLimit : Nat := 2

/-- `DISPATCHED_WITHOUT_INTENT`. -/
def dispatchedWithoutIntent : String :=
  "dispatched upstream but expired holding no settlement intent: inference was " ++
    "delivered and its charge was never recorded; reconcile against the provider's " ++
    "usage records"

/-- `spend_within_cap`. -/
def spendWithinCap (settled reserved additional cap : Decimal) : Bool :=
  settled + reserved < cap && settled + reserved + additional ≤ cap

def saturatingAdd (a b : Int) : Int := max i64Min (min i64Max (a + b))

def checkedAdd (a b : Int) : Option Int :=
  if i64Min ≤ a + b ∧ a + b ≤ i64Max then some (a + b) else none

/-- `velocity_within_cap`. -/
def velocityWithinCap (settled reserved additional cap : Int) : Bool :=
  saturatingAdd settled reserved < cap &&
    ((checkedAdd settled reserved).bind fun committed => checkedAdd committed additional).any
      (· ≤ cap)

/-! ## The presenting key -/

/-- What the liveness `UPDATE … RETURNING` reports. -/
structure KeyState where
  spendCapUsd : Decimal
  velocityCapTokensPerMin : Int
  userSpendCapUsd : Decimal
  userVelocityCapTokensPerMin : Int
  creditLimitUsd : Option Decimal
  creditLimitWindow : Option CreditLimitWindow
  deriving DecidableEq, Repr

/-- A key whose caps count towards its owner's ceilings. -/
def ApiKey.isLiveSibling (key : ApiKey) (userId : Uuid) : Prop :=
  key.userId = userId ∧ key.disabled = false

instance (key : ApiKey) (userId : Uuid) : Decidable (key.isLiveSibling userId) :=
  inferInstanceAs (Decidable (_ ∧ _))

/-- The liveness predicate of the admission `UPDATE`. -/
def ApiKey.isPresentable (key : ApiKey) (now : Timestamp) (presented : AuthenticatedKey) : Prop :=
  key.id = presented.id ∧ key.isLiveSibling presented.userId ∧
    ∀ expiresAt ∈ key.expiresAt, now < expiresAt

instance (key : ApiKey) (now : Timestamp) (presented : AuthenticatedKey) :
    Decidable (key.isPresentable now presented) :=
  inferInstanceAs (Decidable (_ ∧ _ ∧ _))

/-- The presenting key's own caps, and its owner's derived ceilings: the largest
    cap over the owner's keys that are not disabled. -/
def Db.keyState (db : Db) (now : Timestamp) (presented : AuthenticatedKey) : Option KeyState :=
  (db.apiKeys.find fun key => key.isPresentable now presented).map fun presenting =>
    let siblings := db.apiKeys.rows.filter fun key => key.isLiveSibling presented.userId
    { spendCapUsd := presenting.spendCapUsd
      velocityCapTokensPerMin := presenting.velocityCapTokensPerMin
      userSpendCapUsd := (siblings.map ApiKey.spendCapUsd).max?.getD presenting.spendCapUsd
      userVelocityCapTokensPerMin := (siblings.map ApiKey.velocityCapTokensPerMin).max?.getD
        presenting.velocityCapTokensPerMin
      creditLimitUsd := presenting.creditLimitUsd
      creditLimitWindow := presenting.creditLimitWindow }

/-- The join condition of the aggregates: the row's key belongs to the user. -/
def Db.owns (db : Db) (userId apiKeyId : Uuid) : Prop :=
  ∃ key ∈ db.apiKeys, key.id = apiKeyId ∧ key.userId = userId

instance (db : Db) (userId apiKeyId : Uuid) : Decidable (db.owns userId apiKeyId) :=
  inferInstanceAs (Decidable (∃ key ∈ db.apiKeys, _))

/-- Who owns a key is read from `api_keys` alone. -/
theorem Db.owns_of_apiKeys {db db' : Db} (h : db'.apiKeys = db.apiKeys) : db'.owns = db.owns := by
  unfold Db.owns
  rw [h]

/-! ## The expiry sweep -/

/-- Expired, and nothing says the request ever reached an upstream. -/
def UsageReservation.isReclaimable (row : UsageReservation) (now : Timestamp) : Prop :=
  row.expiresAt ≤ now ∧ row.settlementIntent = none ∧ row.dispatchedAt = none ∧
    row.releasedAt = none

instance (row : UsageReservation) (now : Timestamp) : Decidable (row.isReclaimable now) :=
  inferInstanceAs (Decidable (_ ∧ _ ∧ _ ∧ _))

/-- Expired while it may still owe, and not parked yet. -/
def UsageReservation.isQuarantinable (row : UsageReservation) (now : Timestamp) : Prop :=
  row.expiresAt ≤ now ∧ row.quarantinedAt = none ∧
    (row.settlementIntent ≠ none ∨ row.dispatchedAt ≠ none)

instance (row : UsageReservation) (now : Timestamp) : Decidable (row.isQuarantinable now) :=
  inferInstanceAs (Decidable (_ ∧ _ ∧ _))

/-- What the sweep's `UPDATE` writes: an intentless row states why it is parked,
    unless it already carries an error. -/
def UsageReservation.quarantineExpired (row : UsageReservation) (now : Timestamp) :
    UsageReservation :=
  { row with
    quarantinedAt := some now
    lastSettleError :=
      if row.settlementIntent = none then some (row.lastSettleError.getD dispatchedWithoutIntent)
      else row.lastSettleError }

/-- The two sweep statements, over every user's reservations. -/
def Db.sweepExpired (db : Db) (now : Timestamp) : Except SqlError Db := do
  let kept := db.usageReservations.deleteWhere fun row => row.isReclaimable now
  let usageReservations ← liftViolation
    (kept.updateWhere (fun row => row.isQuarantinable now) fun row => row.quarantineExpired now)
  return { db with usageReservations }

/-- The sweep is the reserved lane's alone. -/
def Db.sweptFor (db : Db) (lane : MeteringLane) (now : Timestamp) : Except SqlError Db :=
  match lane with
  | .reserved => db.sweepExpired now
  | .free => .ok db

/-! ## Aggregates -/

/-- Which counter answers for the key's own limit (the `$3` of the aggregate). -/
inductive SpendWindow where
  | lifetime
  | daily
  | weekly
  | monthly
  deriving DecidableEq, Repr

def KeyState.spendWindow (keyState : KeyState) : Option SpendWindow :=
  keyState.creditLimitUsd.map fun _ =>
    match keyState.creditLimitWindow with
    | none => .lifetime
    | some .daily => .daily
    | some .weekly => .weekly
    | some .monthly => .monthly

/-- The first day the daily counter is summed from; `none` matches no row. -/
def windowDayStart (now : Timestamp) : Option SpendWindow → Option Int
  | some .daily => some (usageEventUtcDay now)
  | some .weekly => some (Civil.mondayOf (Civil.dayOf now))
  | _ => none

/-- Settled usage: the user's, and the presenting key's share of it. -/
structure SettledUsage where
  userMonthlySpend : Decimal
  userRecentTokens : Int
  monthlySpend : Decimal
  recentTokens : Int
  windowDaySpend : Decimal
  windowTotalSpend : Decimal
  userMonthlyByokCatalog : Decimal
  deriving DecidableEq, Repr

/-- Fresh prompt and output tokens, what the velocity caps count. -/
def UsageEvent.velocityTokens (event : UsageEvent) : Int :=
  event.inputTokens - event.cachedInputTokens + event.outputTokens

/-- `INTERVAL '1 minute'`. -/
def velocityWindow : Timestamp := 60 * 1000000

def Db.userMonthlyByokCatalog (db : Db) (now : Timestamp) (userId : Uuid) : Decimal :=
  sumWhere (fun row => db.owns userId row.apiKeyId ∧ usageEventUtcMonth now ≤ row.month)
    UsageKeyMonthSpend.byokCatalogUsd db.usageKeyMonthSpend.rows

def Db.settledUsage (db : Db) (now : Timestamp) (key : AuthenticatedKey)
    (window : Option SpendWindow) : SettledUsage where
  userMonthlySpend :=
    sumWhere (fun row => db.owns key.userId row.apiKeyId ∧ usageEventUtcMonth now ≤ row.month)
      UsageKeyMonthSpend.spendUsd db.usageKeyMonthSpend.rows
  monthlySpend :=
    sumWhere
      (fun row => (db.owns key.userId row.apiKeyId ∧ usageEventUtcMonth now ≤ row.month) ∧
        row.apiKeyId = key.id)
      UsageKeyMonthSpend.spendUsd db.usageKeyMonthSpend.rows
  userMonthlyByokCatalog := db.userMonthlyByokCatalog now key.userId
  userRecentTokens :=
    sumWhere (fun event => db.owns key.userId event.apiKeyId ∧ now - velocityWindow ≤ event.ts)
      UsageEvent.velocityTokens db.usageEvents.rows
  recentTokens :=
    sumWhere
      (fun event => (db.owns key.userId event.apiKeyId ∧ now - velocityWindow ≤ event.ts) ∧
        event.apiKeyId = key.id)
      UsageEvent.velocityTokens db.usageEvents.rows
  windowDaySpend :=
    sumWhere (fun row => row.apiKeyId = key.id ∧ ∃ day ∈ windowDayStart now window, day ≤ row.day)
      UsageKeyDaySpend.spendUsd db.usageKeyDaySpend.rows
  windowTotalSpend :=
    sumWhere (fun row => row.apiKeyId = key.id ∧ window = some .lifetime)
      UsageKeyTotalSpend.spendUsd db.usageKeyTotalSpend.rows

/-- The rows admission holds credit for: not released, and unexpired or carrying
    an intent. -/
def UsageReservation.encumbers (row : UsageReservation) (now : Timestamp) : Prop :=
  row.releasedAt = none ∧ (now < row.expiresAt ∨ row.settlementIntent ≠ none)

instance (row : UsageReservation) (now : Timestamp) : Decidable (row.encumbers now) :=
  inferInstanceAs (Decidable (_ ∧ _))

/-- In-flight usage: the user's, and the presenting key's share of it. -/
structure ReservedUsage where
  userActiveReservedCost : Decimal
  userActiveReservedTokens : Int
  activeReservedCost : Decimal
  activeReservedTokens : Int
  userLiveReservations : Nat
  userCommittedByokCatalog : Decimal
  deriving DecidableEq, Repr

def Db.userActiveReservedCost (db : Db) (now : Timestamp) (userId : Uuid) : Decimal :=
  sumWhere (fun row => db.owns userId row.apiKeyId ∧ row.encumbers now)
    UsageReservation.reservedCostUsd db.usageReservations.rows

def Db.reservedUsage (db : Db) (now : Timestamp) (key : AuthenticatedKey) : ReservedUsage where
  userActiveReservedCost := db.userActiveReservedCost now key.userId
  userActiveReservedTokens :=
    sumWhere (fun row => db.owns key.userId row.apiKeyId ∧ row.encumbers now)
      UsageReservation.reservedTokens db.usageReservations.rows
  activeReservedCost :=
    sumWhere
      (fun row => (db.owns key.userId row.apiKeyId ∧ row.encumbers now) ∧ row.apiKeyId = key.id)
      UsageReservation.reservedCostUsd db.usageReservations.rows
  activeReservedTokens :=
    sumWhere
      (fun row => (db.owns key.userId row.apiKeyId ∧ row.encumbers now) ∧ row.apiKeyId = key.id)
      UsageReservation.reservedTokens db.usageReservations.rows
  userLiveReservations :=
    countWhere
      (fun row => (db.owns key.userId row.apiKeyId ∧ row.encumbers now) ∧ now < row.expiresAt)
      db.usageReservations.rows
  userCommittedByokCatalog :=
    sumWhere (fun row => db.owns key.userId row.apiKeyId ∧ row.encumbers now)
      (fun row => row.byokCatalogBasisUsd.getD 0) db.usageReservations.rows

/-! ## Sizing and gates -/

structure AdmissionRequest where
  key : AuthenticatedKey
  sizing : ReservationSizing
  byok : ByokReservation
  requireCredits : Bool
  lane : MeteringLane
  deriving DecidableEq, Repr

/-- The free lane is offered no learned sizing. -/
def AdmissionRequest.offered (request : AdmissionRequest) : ReservationSizing :=
  match request.lane with
  | .reserved => request.sizing
  | .free => .cold request.sizing.full

def ReservationSize.isNonnegative (size : ReservationSize) : Bool :=
  0 ≤ size.totalTokens && 0 ≤ size.outputTokens && 0 ≤ size.costUsd

def ReservationSizing.isNonnegative (sizing : ReservationSizing) : Bool :=
  sizing.full.isNonnegative && sizing.learned.all ReservationSize.isNonnegative

/-- The learned sizing, for a user with few live requests; else the full one. -/
def chooseSizing (sizing : ReservationSizing) (userLiveReservations : Nat) :
    ReservationSize × ReservationBasis :=
  match sizing.learned with
  | some learned =>
      if userLiveReservations < learnedSizingConcurrencyLimit then (learned, .learned)
      else (sizing.full, .cold)
  | none => (sizing.full, .cold)

/-- What a request would hold if it were admitted. -/
structure AdmissionPlan where
  size : ReservationSize
  basis : ReservationBasis
  waived : Bool
  deriving DecidableEq, Repr

/-- The sizing's cost, or nothing when the BYOK allowance covers the request. -/
def AdmissionPlan.reservedCostUsd (plan : AdmissionPlan) : Decimal :=
  if plan.waived then 0 else plan.size.costUsd

def Db.admissionPlan (db : Db) (now : Timestamp) (request : AdmissionRequest) : AdmissionPlan :=
  let reserved := db.reservedUsage now request.key
  let sized := chooseSizing request.offered reserved.userLiveReservations
  { size := sized.1
    basis := sized.2
    waived := reservesNoByokFee request.byok (db.userMonthlyByokCatalog now request.key.userId)
      reserved.userCommittedByokCatalog }

/-- The key's window-to-date spend, from the counter its cadence reads. -/
def SettledUsage.windowSpend (settled : SettledUsage) : Option CreditLimitWindow → Decimal
  | none => settled.windowTotalSpend
  | some .daily | some .weekly => settled.windowDaySpend
  | some .monthly => settled.monthlySpend

/-- The gates, in the order they are tried; `none` admits. -/
def Db.admissionGate (db : Db) (now : Timestamp) (request : AdmissionRequest)
    (keyState : KeyState) (balance : Decimal) (plan : AdmissionPlan) : Option Refusal :=
  let settled := db.settledUsage now request.key keyState.spendWindow
  let reserved := db.reservedUsage now request.key
  if !(spendWithinCap settled.monthlySpend reserved.activeReservedCost plan.reservedCostUsd
        keyState.spendCapUsd &&
      spendWithinCap settled.userMonthlySpend reserved.userActiveReservedCost
        plan.reservedCostUsd keyState.userSpendCapUsd) then
    some .spendExceeded
  else if !(keyState.creditLimitUsd.all fun limit =>
      spendWithinCap (settled.windowSpend keyState.creditLimitWindow)
        reserved.activeReservedCost plan.reservedCostUsd limit) then
    some .keyCreditLimitExceeded
  else if !(velocityWithinCap settled.recentTokens reserved.activeReservedTokens
        plan.size.totalTokens keyState.velocityCapTokensPerMin &&
      velocityWithinCap settled.userRecentTokens reserved.userActiveReservedTokens
        plan.size.totalTokens keyState.userVelocityCapTokensPerMin) then
    some .velocityExceeded
  else if request.requireCredits &&
      balance - db.userActiveReservedCost now request.key.userId < plan.reservedCostUsd then
    some .insufficientCredits
  else none

/-- The row `begin_usage_session` inserts; the columns it does not name take
    their defaults. -/
def newReservation (requestId : Uuid) (now : Timestamp) (request : AdmissionRequest)
    (plan : AdmissionPlan) : UsageReservation where
  id := requestId
  apiKeyId := request.key.id
  createdAt := now
  expiresAt := now + reservationTtl
  reservedTokens := plan.size.totalTokens
  reservedCostUsd := plan.reservedCostUsd
  settlementIntent := none
  settlementIntentAt := none
  settleAttempts := 0
  lastSettleError := none
  quarantinedAt := none
  dispatchedAt := none
  releasedAt := none
  releasedNote := none
  byokCatalogBasisUsd := request.byok.catalogBasis

/-- The session an admitted request carries. -/
def newSession (requestId : Uuid) (request : AdmissionRequest) (plan : AdmissionPlan) :
    UsageSession where
  requestId := requestId
  apiKeyId := request.key.id
  userId := request.key.userId
  requireCredits := request.requireCredits
  outputBound := plan.size.outputTokens
  reservation :=
    match request.lane with
    | .reserved => some { reservedCostUsd := plan.reservedCostUsd, estimatorBasis := plan.basis }
    | .free => none

/-- `begin_usage_session`.  `requestId` is the `Uuid::new_v4` it draws. -/
def Db.beginUsageSession (db : Db) (now : Timestamp) (requestId : Uuid)
    (request : AdmissionRequest) : Except SqlError (UsageAdmission × Db) := do
  ensure (request.offered.isNonnegative = true)
    (SqlError.protocol "usage reservation cannot be negative")
  match db.keyState now request.key with
  | none => return (.refused .unauthorized, db)
  | some keyState =>
      match db.users.find (fun user => user.id = request.key.userId) with
      | none => return (.refused .unauthorized, db)
      | some user =>
          if user.frozenAt.isSome then
            return (.refused .accountFrozen, db)
          else do
            let swept ← db.sweptFor request.lane now
            let plan := swept.admissionPlan now request
            match swept.admissionGate now request keyState user.creditBalanceUsd plan with
            | some reason => return (.refused reason, db)
            | none =>
                ensure (plan.size.outputTokens ≤ i32Max)
                  (SqlError.protocol "reserved output tokens exceed the database integer range")
                match request.lane with
                | .free => return (.allowed (newSession requestId request plan), swept)
                | .reserved =>
                    let usageReservations ← liftViolation
                      (swept.usageReservations.insert (newReservation requestId now request plan))
                    return (.allowed (newSession requestId request plan),
                      { swept with usageReservations })

end ZeroRouter
