import ZeroRouter.System

/-!
# What each operation does

One specification lemma for each transaction and statement, saying everything a
successful one did.  The callers cite these and never unfold an operation.
-/

namespace ZeroRouter

open Relational

variable {db db' : Db} {now : Timestamp} {requestId reservationId apiKeyId : Uuid}

/-! ## In-place updates of a reservation -/

/-- The columns of a reservation no statement writes after its `INSERT`. -/
structure SameColumns (old new : UsageReservation) : Prop where
  id : new.id = old.id
  apiKeyId : new.apiKeyId = old.apiKeyId
  createdAt : new.createdAt = old.createdAt
  expiresAt : new.expiresAt = old.expiresAt
  reservedTokens : new.reservedTokens = old.reservedTokens
  reservedCostUsd : new.reservedCostUsd = old.reservedCostUsd
  byokCatalogBasisUsd : new.byokCatalogBasisUsd = old.byokCatalogBasisUsd

theorem SameColumns.refl (row : UsageReservation) : SameColumns row row :=
  ⟨rfl, rfl, rfl, rfl, rfl, rfl, rfl⟩

theorem SameColumns.trans {a b c : UsageReservation} (first : SameColumns a b)
    (second : SameColumns b c) : SameColumns a c where
  id := second.id.trans first.id
  apiKeyId := second.apiKeyId.trans first.apiKeyId
  createdAt := second.createdAt.trans first.createdAt
  expiresAt := second.expiresAt.trans first.expiresAt
  reservedTokens := second.reservedTokens.trans first.reservedTokens
  reservedCostUsd := second.reservedCostUsd.trans first.reservedCostUsd
  byokCatalogBasisUsd := second.byokCatalogBasisUsd.trans first.byokCatalogBasisUsd

/-- An update that only parks, marks or stamps a row: what it owes, what evidence
    it carries and whether it was released stay. -/
structure Parked (old new : UsageReservation) : Prop where
  columns : SameColumns old new
  settlementIntent : new.settlementIntent = old.settlementIntent
  dispatchedAt : old.dispatchedAt ≠ none → new.dispatchedAt ≠ none
  releasedAt : new.releasedAt = old.releasedAt
  releasedNote : new.releasedNote = old.releasedNote

theorem Parked.refl (row : UsageReservation) : Parked row row :=
  ⟨.refl row, rfl, id, rfl, rfl⟩

/-- The rows of a table after an update, pairwise with the rows before it. -/
theorem forall₂_of_updateWhere {t t' : Table usageReservationsTable}
    {p : UsageReservation → Prop} [DecidablePred p] {f : UsageReservation → UsageReservation}
    {R : UsageReservation → UsageReservation → Prop} (h : t.updateWhere p f = .ok t')
    (same : ∀ row, R row row) (moves : ∀ row ∈ t, p row → R row (f row)) :
    List.Forall₂ R t.rows t'.rows := by
  rw [Table.updateWhere_ok h, List.forall₂_map_right_iff, List.forall₂_same]
  intro row hrow
  unfold Table.rewrite
  split
  · next hp => exact moves row hrow hp
  · exact same row

/-! ## The sweep -/

/-- A sweep deletes the reclaimable rows and parks some of the others. -/
structure Swept (now : Timestamp) (db swept : Db) : Prop where
  rest : swept = { db with usageReservations := swept.usageReservations }
  rows : List.Forall₂ Parked
    (db.usageReservations.rows.filter fun row => ¬ row.isReclaimable now)
    swept.usageReservations.rows

theorem Db.sweepExpired_ok {swept : Db} (h : db.sweepExpired now = .ok swept) :
    Swept now db swept := by
  simp only [Db.sweepExpired, bind_eq_ok, liftViolation_eq_ok] at h
  obtain ⟨table, htable, hswept⟩ := h
  have hswept := (Except.ok.inj hswept).symm
  subst hswept
  refine ⟨rfl, forall₂_of_updateWhere htable Parked.refl fun row _ _ => ?_⟩
  exact ⟨⟨rfl, rfl, rfl, rfl, rfl, rfl, rfl⟩, rfl, id, rfl, rfl⟩

/-! ## Admission -/

theorem spendWithinCap_le {settled reserved additional cap : Decimal}
    (h : spendWithinCap settled reserved additional cap = true) :
    settled + reserved + additional ≤ cap := by
  unfold spendWithinCap at h
  rw [Bool.and_eq_true] at h
  exact of_decide_eq_true h.2

/-- What passing every money gate says of the figures they read. -/
structure Granted (db : Db) (now : Timestamp) (request : AdmissionRequest) (keyState : KeyState)
    (balance : Decimal) (plan : AdmissionPlan) : Prop where
  keySpend : (db.settledUsage now request.key keyState.spendWindow).monthlySpend +
    (db.reservedUsage now request.key).activeReservedCost + plan.reservedCostUsd
      ≤ keyState.spendCapUsd
  userSpend : (db.settledUsage now request.key keyState.spendWindow).userMonthlySpend +
    db.userActiveReservedCost now request.key.userId + plan.reservedCostUsd
      ≤ keyState.userSpendCapUsd
  creditLimit : ∀ limit ∈ keyState.creditLimitUsd,
    (db.settledUsage now request.key keyState.spendWindow).windowSpend keyState.creditLimitWindow +
      (db.reservedUsage now request.key).activeReservedCost + plan.reservedCostUsd ≤ limit
  credits : request.requireCredits = true →
    db.userActiveReservedCost now request.key.userId + plan.reservedCostUsd ≤ balance

theorem Db.admissionGate_none {request : AdmissionRequest} {keyState : KeyState}
    {balance : Decimal} {plan : AdmissionPlan}
    (h : db.admissionGate now request keyState balance plan = none) :
    Granted db now request keyState balance plan := by
  unfold Db.admissionGate at h
  simp only at h
  split at h
  · cases h
  next spend =>
  split at h
  · cases h
  next limit =>
  split at h
  · cases h
  split at h
  · cases h
  next credits =>
  simp only [Bool.not_eq_true', Bool.not_eq_false, Bool.and_eq_true] at spend limit
  constructor
  · exact spendWithinCap_le spend.1
  · exact spendWithinCap_le spend.2
  · intro cap hcap
    rw [Option.mem_def] at hcap
    rw [hcap] at limit
    exact spendWithinCap_le limit
  · intro required
    simp only [required, Bool.true_and, decide_eq_true_eq, not_lt] at credits
    exact le_sub_iff_add_le'.mp credits

/-- What an admission that was allowed established, whichever lane it took. -/
structure Allowed (db : Db) (now : Timestamp) (requestId : Uuid) (request : AdmissionRequest)
    (session : UsageSession) (swept : Db) (keyState : KeyState) (user : User) : Prop where
  nonnegative : request.offered.isNonnegative = true
  presented : db.keyState now request.key = some keyState
  userMem : user ∈ db.users
  userId : user.id = request.key.userId
  notFrozen : user.frozenAt = none
  sweep : db.sweptFor request.lane now = .ok swept
  gates : swept.admissionGate now request keyState user.creditBalanceUsd
    (swept.admissionPlan now request) = none
  session : session = newSession requestId request (swept.admissionPlan now request)

theorem Db.beginUsageSession_allowed {request : AdmissionRequest} {session : UsageSession}
    (h : db.beginUsageSession now requestId request = .ok (.allowed session, db')) :
    ∃ swept keyState user, Allowed db now requestId request session swept keyState user ∧
      match request.lane with
      | .free => db' = swept
      | .reserved => ∃ table,
          swept.usageReservations.insert
            (newReservation requestId now request (swept.admissionPlan now request)) = .ok table ∧
          db' = { swept with usageReservations := table } := by
  simp only [Db.beginUsageSession, bind_eq_ok, ensure_eq_ok] at h
  obtain ⟨-, nonnegative, h⟩ := h
  split at h
  · simp [pure, Except.pure] at h
  next keyState hkey =>
  split at h
  · simp [pure, Except.pure] at h
  next user huser =>
  split at h
  · simp [pure, Except.pure] at h
  next frozen =>
  simp only [bind_eq_ok] at h
  obtain ⟨swept, hswept, h⟩ := h
  split at h
  · simp [pure, Except.pure] at h
  next hgate =>
  simp only [bind_eq_ok, ensure_eq_ok] at h
  obtain ⟨-, -, h⟩ := h
  obtain ⟨hmem, hid⟩ := Table.find_some huser
  have allowed : ∀ s, s = newSession requestId request (swept.admissionPlan now request) →
      Allowed db now requestId request s swept keyState user := fun s hs =>
    ⟨nonnegative, hkey, hmem, hid, by simpa using frozen, hswept, hgate, hs⟩
  cases hlane : request.lane with
  | free =>
      simp only [hlane] at h
      obtain ⟨hs, hdb⟩ := Prod.mk.inj (Except.ok.inj h)
      exact ⟨swept, keyState, user, allowed session (UsageAdmission.allowed.inj hs).symm,
        hdb.symm⟩
  | reserved =>
      simp only [hlane, bind_eq_ok, liftViolation_eq_ok] at h
      obtain ⟨table, htable, h⟩ := h
      obtain ⟨hs, hdb⟩ := Prod.mk.inj (Except.ok.inj h)
      exact ⟨swept, keyState, user, allowed session (UsageAdmission.allowed.inj hs).symm,
        table, htable, hdb.symm⟩

/-! ## Settlement -/

/-- A house request is charged as priced; a BYOK one the fee on what the allowance
    leaves, and never more than it was priced at. -/
theorem Db.priceSettlement_ok {userId : Uuid} {record : UsageRecord} {costUsd : Decimal}
    {byokCatalogUsd : Option Decimal}
    (h : db.priceSettlement now userId record = .ok (costUsd, byokCatalogUsd)) :
    (record.byokCatalogUsd = none ∧ byokCatalogUsd = none ∧ costUsd = record.costUsd) ∨
      ∃ catalog, record.byokCatalogUsd = some catalog ∧ byokCatalogUsd = some catalog ∧
        costUsd = min
          (billableAboveAllowance catalog (db.userMonthlyByokCatalog now userId) * feeRate)
          record.costUsd := by
  unfold Db.priceSettlement at h
  split at h
  · next house =>
      cases h
      exact .inl ⟨house, rfl, rfl⟩
  · next catalog byok =>
      simp only at h
      split at h
      · cases h
      · next fee hfee =>
          cases h
          exact .inr ⟨catalog, byok, rfl, by rw [applyFee_eq_some hfee]⟩

/-- What a settle transaction that reported `Settled` did. -/
structure Settled (db : Db) (now : Timestamp) (reservationId apiKeyId : Uuid)
    (intent : SettlementIntent) (reservation : UsageReservation) (event : UsageEvent)
    (db' : Db) : Prop where
  reservationMem : reservation ∈ db.usageReservations
  settlable : reservation.isSettlable reservationId apiKeyId
  eventRequestId : event.requestId = reservationId
  eventApiKeyId : event.apiKeyId = apiKeyId
  eventTs : event.ts = now
  priced : db.priceSettlement now intent.userId intent.toRecord
    = .ok (event.costUsd, event.byokCatalogUsd)
  reservations : db'.usageReservations =
    db.usageReservations.deleteWhere fun row => row.isSettlable reservationId apiKeyId
  events : db.usageEvents.insert event = .ok db'.usageEvents
  month : accrueUsageKeyMonthSpend db.usageKeyMonthSpend event = .ok db'.usageKeyMonthSpend
  day : accrueUsageKeyDaySpend db.usageKeyDaySpend event = .ok db'.usageKeyDaySpend
  total : accrueUsageKeyTotalSpend db.usageKeyTotalSpend event = .ok db'.usageKeyTotalSpend
  apiKeys : db'.apiKeys = db.apiKeys
  money :
    ((intent.requireCredits = true → min event.costUsd reservation.reservedCostUsd ≤ 0) ∧
      db'.users = db.users ∧ db'.creditLedger = db.creditLedger) ∨
    ∃ user ∈ db.users, user.id = intent.userId ∧ intent.requireCredits = true ∧
      0 < min event.costUsd reservation.reservedCostUsd ∧
      overdraftRejected false user.creditBalanceUsd
        (user.creditBalanceUsd + -min event.costUsd reservation.reservedCostUsd) = false ∧
      db.users.updateWhere (fun row => row.id = intent.userId)
        (fun row => { row with creditBalanceUsd :=
          row.creditBalanceUsd + -min event.costUsd reservation.reservedCostUsd })
        = .ok db'.users ∧
      db.creditLedger.insert
        { userId := intent.userId
          entryType := .usage
          amountUsd := -min event.costUsd reservation.reservedCostUsd
          balanceAfterUsd :=
            user.creditBalanceUsd + -min event.costUsd reservation.reservedCostUsd
          stripeSessionId := none
          stripePaymentIntentId := none
          requestId := some reservationId
          note := none } = .ok db'.creditLedger

/-- The settle transaction either changes nothing or settles. -/
theorem Db.settleOnce_ok {intent : SettlementIntent} {outcome : SettleStep}
    (h : db.settleOnce now reservationId apiKeyId intent = .ok (outcome, db')) :
    (outcome ≠ .settled ∧ db' = db) ∨
      (outcome = .settled ∧ ∃ reservation event,
        Settled db now reservationId apiKeyId intent reservation event db') := by
  simp only [Db.settleOnce, bind_eq_ok] at h
  obtain ⟨counts, -, h⟩ := h
  split at h
  · split at h
    · obtain ⟨rfl, rfl⟩ := Prod.mk.inj (Except.ok.inj h)
      exact .inl ⟨by simp, rfl⟩
    · split at h
      · obtain ⟨rfl, rfl⟩ := Prod.mk.inj (Except.ok.inj h)
        exact .inl ⟨by simp, rfl⟩
      · simp at h
  next reservation found =>
  simp only [bind_eq_ok] at h
  obtain ⟨⟨costUsd, byokCatalogUsd⟩, hprice, h⟩ := h
  obtain ⟨hmem, hsettlable⟩ := Table.find_some found
  simp only at h
  split at h
  · obtain ⟨rfl, rfl⟩ := Prod.mk.inj (Except.ok.inj h)
    exact .inl ⟨by simp, rfl⟩
  · simp at h
  next metered hinsert =>
  obtain ⟨events, month, day, total, hevents, -, hmonth, hday, htotal, hmetered⟩ :=
    Db.insertUsageEvent_ok hinsert
  simp only [bind_eq_ok] at h
  obtain ⟨attempts, -, debited, hdebit, h⟩ := h
  obtain ⟨rfl, rfl⟩ := Prod.mk.inj (Except.ok.inj h)
  refine .inr ⟨rfl, reservation,
    settledEvent now reservationId apiKeyId intent counts costUsd byokCatalogUsd, ?_⟩
  subst hmetered
  unfold Db.debitUsage at hdebit
  simp only at hdebit
  split at hdebit
  · next charged =>
      obtain ⟨user, users, ledger, huser, hid, allowed, husers, hledger, hdb⟩ :=
        Db.moveBalance_ok hdebit
      subst hdb
      exact ⟨hmem, hsettlable, rfl, rfl, rfl, hprice, rfl, hevents, hmonth, hday, htotal, rfl,
        .inr ⟨user, huser, hid, charged.1, charged.2, allowed, husers, hledger⟩⟩
  · next uncharged =>
      cases hdebit
      exact ⟨hmem, hsettlable, rfl, rfl, rfl, hprice, rfl, hevents, hmonth, hday, htotal, rfl,
        .inl ⟨fun credits => not_lt.mp fun positive => uncharged ⟨credits, positive⟩, rfl, rfl⟩⟩

/-- The free lane's row is a metering row of no cost. -/
theorem Db.observeFreeUsage_ok {record : UsageRecord}
    (h : db.observeFreeUsage now requestId apiKeyId record = .ok db') :
    ∃ event, db.insertUsageEvent event = .ok db' ∧ event.requestId = requestId ∧
      event.apiKeyId = apiKeyId ∧ event.ts = now ∧ event.costUsd = 0 ∧
      event.byokCatalogUsd = none := by
  simp only [Db.observeFreeUsage, bind_eq_ok] at h
  obtain ⟨counts, -, h⟩ := h
  exact ⟨_, h, rfl, rfl, rfl, rfl, rfl⟩

/-! ## Statements that park, mark or stamp rows -/

theorem Db.markDispatched_ok (h : db.markDispatched now reservationId apiKeyId = .ok db') :
    ∃ table, db' = { db with usageReservations := table } ∧
      List.Forall₂ Parked db.usageReservations.rows table.rows := by
  simp only [Db.markDispatched, bind_eq_ok, liftViolation_eq_ok] at h
  obtain ⟨table, htable, hdb⟩ := h
  refine ⟨table, (Except.ok.inj hdb).symm, forall₂_of_updateWhere htable Parked.refl ?_⟩
  intro row _ _
  exact ⟨⟨rfl, rfl, rfl, rfl, rfl, rfl, rfl⟩, rfl, fun _ => by simp, rfl, rfl⟩

theorem Db.recordSettleFailure_ok {error : String} {quarantined : Option Bool}
    (h : db.recordSettleFailure now reservationId error = .ok (quarantined, db')) :
    ∃ table, db' = { db with usageReservations := table } ∧
      List.Forall₂ Parked db.usageReservations.rows table.rows := by
  simp only [Db.recordSettleFailure, bind_eq_ok, liftViolation_eq_ok] at h
  obtain ⟨table, htable, h⟩ := h
  obtain ⟨-, hdb⟩ := Prod.mk.inj (Except.ok.inj h)
  refine ⟨table, hdb.symm, forall₂_of_updateWhere htable Parked.refl ?_⟩
  intro row _ _
  exact ⟨⟨rfl, rfl, rfl, rfl, rfl, rfl, rfl⟩, rfl, id, rfl, rfl⟩

theorem Db.quarantineSettlement_ok {reason : String}
    (h : db.quarantineSettlement now reservationId reason = .ok db') :
    ∃ table, db' = { db with usageReservations := table } ∧
      List.Forall₂ Parked db.usageReservations.rows table.rows := by
  simp only [Db.quarantineSettlement, bind_eq_ok, liftViolation_eq_ok] at h
  obtain ⟨table, htable, hdb⟩ := h
  refine ⟨table, (Except.ok.inj hdb).symm, forall₂_of_updateWhere htable Parked.refl ?_⟩
  intro row _ _
  exact ⟨⟨rfl, rfl, rfl, rfl, rfl, rfl, rfl⟩, rfl, id, rfl, rfl⟩

/-! ## Intents and releases -/

/-- The row a persisted intent lands in gains it, and changes in nothing else
    admission or settlement reads. -/
structure Persisted (requestId apiKeyId : Uuid) (payload : SettlementPayload)
    (old new : UsageReservation) : Prop where
  columns : SameColumns old new
  dispatchedAt : new.dispatchedAt = old.dispatchedAt
  releasedAt : new.releasedAt = old.releasedAt
  releasedNote : new.releasedNote = old.releasedNote
  settlementIntent : new.settlementIntent = old.settlementIntent ∨
    (old.id = requestId ∧ old.apiKeyId = apiKeyId ∧ new.settlementIntent = some payload)

theorem Db.persistIntent_ok {payload : SettlementPayload}
    (h : db.persistIntent now requestId apiKeyId payload = .ok db') :
    ∃ table, db' = { db with usageReservations := table } ∧
      List.Forall₂ (Persisted requestId apiKeyId payload)
        db.usageReservations.rows table.rows := by
  simp only [Db.persistIntent, bind_eq_ok, liftViolation_eq_ok] at h
  obtain ⟨table, htable, hdb⟩ := h
  refine ⟨table, (Except.ok.inj hdb).symm, forall₂_of_updateWhere htable ?_ ?_⟩
  · intro row
    exact ⟨.refl row, rfl, rfl, rfl, .inl rfl⟩
  · intro row _ hrow
    exact ⟨⟨rfl, rfl, rfl, rfl, rfl, rfl, rfl⟩, rfl, rfl, rfl, .inr ⟨hrow.1, hrow.2, rfl⟩⟩

/-- The row a release lands in was quarantined and unreleased, and changes in
    nothing but its release. -/
structure ReleasedBy (requestId : Uuid) (old new : UsageReservation) : Prop where
  columns : SameColumns old new
  settlementIntent : new.settlementIntent = old.settlementIntent
  dispatchedAt : new.dispatchedAt = old.dispatchedAt
  quarantinedAt : new.quarantinedAt = old.quarantinedAt
  released : (new.releasedAt = old.releasedAt ∧ new.releasedNote = old.releasedNote) ∨
    (old.id = requestId ∧ old.releasedAt = none ∧ old.quarantinedAt ≠ none)

/-- A release changes a row only when it reports `Released`. -/
theorem Db.releaseQuarantinedReservation_ok {note : String} {forgive : Bool}
    {outcome : ReservationRelease}
    (h : db.releaseQuarantinedReservation now requestId note forgive = .ok (outcome, db')) :
    ((∀ at' owed forgiven, outcome ≠ .released at' owed forgiven) ∧ db' = db) ∨
      ((∃ row ∈ db.usageReservations, row.id = requestId) ∧
        ∃ table, db' = { db with usageReservations := table } ∧
          List.Forall₂ (ReleasedBy requestId) db.usageReservations.rows table.rows) := by
  simp only [Db.releaseQuarantinedReservation, bind_eq_ok, ensure_eq_ok] at h
  obtain ⟨-, -, h⟩ := h
  split at h
  · obtain ⟨rfl, rfl⟩ := Prod.mk.inj (Except.ok.inj h)
    exact .inl ⟨by simp, rfl⟩
  next row found =>
  split at h
  · obtain ⟨rfl, rfl⟩ := Prod.mk.inj (Except.ok.inj h)
    exact .inl ⟨by simp, rfl⟩
  split at h
  · obtain ⟨rfl, rfl⟩ := Prod.mk.inj (Except.ok.inj h)
    exact .inl ⟨by simp, rfl⟩
  next quarantined =>
  split at h
  · obtain ⟨rfl, rfl⟩ := Prod.mk.inj (Except.ok.inj h)
    exact .inl ⟨by simp, rfl⟩
  simp only [bind_eq_ok, liftViolation_eq_ok] at h
  obtain ⟨table, htable, h⟩ := h
  obtain ⟨-, hdb⟩ := Prod.mk.inj (Except.ok.inj h)
  obtain ⟨hmem, hid⟩ := Table.find_some found
  refine .inr ⟨⟨row, hmem, hid⟩, table, hdb.symm, forall₂_of_updateWhere htable ?_ ?_⟩
  · intro row
    exact ⟨.refl row, rfl, rfl, rfl, .inl ⟨rfl, rfl⟩⟩
  · intro other hother hp
    have same : other = row := Table.eq_of_clash hother hmem (hp.1.trans hid.symm)
    subst same
    exact ⟨⟨rfl, rfl, rfl, rfl, rfl, rfl, rfl⟩, rfl, rfl, rfl,
      .inr ⟨hp.1, hp.2, quarantined⟩⟩

end ZeroRouter
