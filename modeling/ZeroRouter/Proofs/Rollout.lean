import ZeroRouter.Migration

/-!
# The monthly rollup equals the ledger

From the backfill on, through both migrations and any traffic beside them, every
bucket holds what a scan of its events would sum, and the range of buckets
admission reads answers for exactly the events of the month and later.
-/

namespace ZeroRouter

open List Relational

namespace Rollout

variable {s : State} {events : List UsageEvent} {phase : Phase} {t : Table usageKeyMonthSpendTable}
  {t' : Table usageKeyMonthSpendTable} {event : UsageEvent} {s' : State}
  {R : Rollup UsageKeyMonthSpend UsageEvent (Uuid × Timestamp) Decimal}

/-! ## The backfill -/

/-- One grouped row a bucket can never be refused. -/
theorem backfill_isOk (usageEvents : Table usageEventsTable) :
    ∃ rollup, (Table.empty : Table usageKeyMonthSpendTable).insertAll
      (backfillRows usageEvents.rows) = .ok rollup := by
  apply Table.insertAll_isOk
  · intro row hrow
    obtain ⟨bucket, hbucket, rfl⟩ := mem_map.mp hrow
    refine ⟨?_, ?_, le_refl _⟩
    · apply sumWhere_nonneg
      intro event hevent _
      exact (usageEvents.checked event hevent).costIsNonnegative
    · obtain ⟨event, -, rfl⟩ := mem_map.mp (mem_dedup.mp hbucket)
      exact (Civil.utcMonth.idem event.ts).symm
  · rw [Table.rows_empty, nil_append, backfillRows, pairwise_map]
    exact (nodup_dedup _).imp fun apart same => apart same

/-- The backfilled rollup tallies the ledger it was filled from. -/
theorem monthSpend_backfill (events : List UsageEvent) :
    monthSpend.Tallies (backfillRows events) events :=
  Rollup.tallies_grouped (fun _ => rfl) fun _ => rfl

theorem monthByokCatalog_backfill (house : ∀ event ∈ events, event.byokCatalogUsd = none) :
    monthByokCatalog.Tallies (backfillRows events) events := by
  refine Rollup.tallies_grouped (fun _ => rfl) fun bucket => ?_
  apply Eq.symm
  apply sumWhere_zero_terms
  intro event hevent _
  change event.byokCatalogUsd.getD 0 = 0
  rw [house event hevent]
  rfl

/-! ## The invariant -/

structure Inv (s : State) : Prop where
  /-- The lock is exclusive. -/
  drained : s.phase.isLocked = true → s.inFlight = []
  /-- An insert in flight met the trigger of the schema that is still there. -/
  pending : ∀ insert ∈ s.inFlight, insert.ranIn = s.phase
  pendingHouse : s.phase.hasByokCatalog = false →
    ∀ insert ∈ s.inFlight, insert.event.byokCatalogUsd = none
  house : s.phase.hasByokCatalog = false →
    ∀ event ∈ s.usageEvents, event.byokCatalogUsd = none
  unfilled : s.phase.isRolledUp = false → s.usageKeyMonthSpend = .empty
  monthSpend : s.phase.isRolledUp = true →
    monthSpend.Tallies s.usageKeyMonthSpend.rows s.usageEvents.rows
  monthByokCatalog : s.phase.isRolledUp = true →
    monthByokCatalog.Tallies s.usageKeyMonthSpend.rows s.usageEvents.rows

theorem Inv.opening (h : s.Opening) : Inv s where
  drained _ := h.inFlight
  pending := by simp [h.inFlight]
  pendingHouse := by simp [h.inFlight]
  house _ := h.noCatalog
  unfilled _ := h.usageKeyMonthSpend
  monthSpend rolledUp := by simp [h.phase, Phase.isRolledUp] at rolledUp
  monthByokCatalog rolledUp := by simp [h.phase, Phase.isRolledUp] at rolledUp

/-- Either body of the trigger accrues the spend. -/
theorem accrue_monthSpend (rolledUp : phase.isRolledUp = true)
    (tallies : ZeroRouter.monthSpend.Tallies t.rows events) (h : phase.accrue t event = .ok t') :
    ZeroRouter.monthSpend.Tallies t'.rows (events ++ [event]) := by
  cases phase with
  | unmigrated | triggered => cases rolledUp
  | backfilled | monthly =>
      exact tallies.upsert h (fun _ => Prod.mk_inj.symm) (fun _ _ same => same) ⟨rfl, rfl⟩
        fun _ => ⟨rfl, rfl⟩
  | altered | allowance => exact monthSpend_accrue tallies h

/-- 0019's body drops no catalog cost, since no event carries one yet. -/
theorem accrue_monthByokCatalog (rolledUp : phase.isRolledUp = true)
    (house : phase.hasByokCatalog = false → event.byokCatalogUsd = none)
    (tallies : ZeroRouter.monthByokCatalog.Tallies t.rows events)
    (h : phase.accrue t event = .ok t') :
    ZeroRouter.monthByokCatalog.Tallies t'.rows (events ++ [event]) := by
  have costless : phase.hasByokCatalog = false → event.byokCatalog = 0 := by
    intro old
    simp [UsageEvent.byokCatalog, house old]
  cases phase with
  | unmigrated | triggered => cases rolledUp
  | backfilled | monthly =>
      refine tallies.upsert h (fun _ => Prod.mk_inj.symm) (fun _ _ same => same)
        ⟨rfl, (costless rfl).symm⟩ fun row => ⟨rfl, ?_⟩
      change row.byokCatalogUsd = row.byokCatalogUsd + event.byokCatalog
      rw [costless rfl, add_zero]
  | altered | allowance => exact monthByokCatalog_accrue tallies h

/-! ## The induction step -/

/-- Ending an insert without a trace. -/
theorem Inv.erase (inv : Inv s) (i : Nat) :
    Inv { s with inFlight := s.inFlight.eraseIdx i } where
  drained locked := by
    change s.inFlight.eraseIdx i = []
    rw [inv.drained locked]
    rfl
  pending insert hinsert := inv.pending insert (mem_of_mem_eraseIdx hinsert)
  pendingHouse old insert hinsert := inv.pendingHouse old insert (mem_of_mem_eraseIdx hinsert)
  house := inv.house
  unfilled := inv.unfilled
  monthSpend := inv.monthSpend
  monthByokCatalog := inv.monthByokCatalog

/-- An insert that commits brings its row and its accrual together. -/
theorem Inv.applied (inv : Inv s) {pending : PendingInsert} (hpending : pending ∈ s.inFlight)
    (h : s.applyInsert pending = .ok s') : Inv s' := by
  simp only [State.applyInsert, bind_eq_ok] at h
  obtain ⟨usageEvents, hevents, rollup, hrollup, h⟩ := h
  have h := (Except.ok.inj h).symm
  subst h
  have ran := inv.pending pending hpending
  rw [ran] at hrollup
  have appended := (Table.insert_ok hevents).1
  refine ⟨inv.drained, inv.pending, inv.pendingHouse, ?_, ?_, ?_, ?_⟩
  · intro old event hevent
    rcases (Table.mem_insert hevents).mp hevent with before | rfl
    · exact inv.house old event before
    · exact inv.pendingHouse old pending hpending
  · intro unfilled
    change s.phase.isRolledUp = false at unfilled
    have empty := inv.unfilled unfilled
    cases hphase : s.phase with
    | unmigrated =>
        rw [hphase] at hrollup
        exact (Except.ok.inj hrollup).symm.trans empty
    | triggered =>
        have idle := inv.drained (by rw [hphase]; rfl)
        rw [idle] at hpending
        cases hpending
    | backfilled | monthly | altered | allowance =>
        rw [hphase] at unfilled
        cases unfilled
  · intro rolledUp
    change ZeroRouter.monthSpend.Tallies rollup.rows usageEvents.rows
    rw [appended]
    exact accrue_monthSpend rolledUp (inv.monthSpend rolledUp) hrollup
  · intro rolledUp
    change ZeroRouter.monthByokCatalog.Tallies rollup.rows usageEvents.rows
    rw [appended]
    exact accrue_monthByokCatalog rolledUp
      (fun old => inv.pendingHouse old pending hpending) (inv.monthByokCatalog rolledUp) hrollup

/-- A migration step that leaves both tables alone, in a ledger no insert is in
    flight on. -/
theorem Inv.migrate (inv : Inv s) (idle : s.inFlight = [])
    (rolledUp : phase.isRolledUp = s.phase.isRolledUp)
    (catalog : phase.hasByokCatalog = false → s.phase.hasByokCatalog = false) :
    Inv { s with phase } where
  drained _ := idle
  pending := by simp [idle]
  pendingHouse := by simp [idle]
  house old := inv.house (catalog old)
  unfilled unfilled := inv.unfilled (rolledUp.symm.trans unfilled)
  monthSpend filled := inv.monthSpend (rolledUp.symm.trans filled)
  monthByokCatalog filled := inv.monthByokCatalog (rolledUp.symm.trans filled)

theorem Inv.abandoned (inv : Inv s) (idle : s.inFlight = [])
    (old : s.phase.hasByokCatalog = false) : Inv s.abandonMonthly where
  drained _ := idle
  pending := by simp [State.abandonMonthly, idle]
  pendingHouse := by simp [State.abandonMonthly, idle]
  house _ := inv.house old
  unfilled _ := rfl
  monthSpend rolledUp := by cases rolledUp
  monthByokCatalog rolledUp := by cases rolledUp

/-- The backfill reads a ledger nothing is in flight on, so it loses no event. -/
theorem Inv.backfilled (inv : Inv s) (phase : s.phase = .triggered)
    {rollup : Table usageKeyMonthSpendTable}
    (h : s.usageKeyMonthSpend.insertAll (backfillRows s.usageEvents.rows) = .ok rollup) :
    Inv { s with phase := .backfilled, usageKeyMonthSpend := rollup } := by
  have idle : s.inFlight = [] := inv.drained (by rw [phase]; rfl)
  have house := inv.house (by rw [phase]; rfl)
  have empty := inv.unfilled (by rw [phase]; rfl)
  have rows : rollup.rows = backfillRows s.usageEvents.rows := by
    rw [Table.insertAll_ok h, empty, Table.rows_empty, nil_append]
  refine ⟨fun _ => idle, by simp [idle], by simp [idle], fun _ => house, ?_, ?_, ?_⟩
  · intro unfilled
    cases unfilled
  · intro _
    change ZeroRouter.monthSpend.Tallies rollup.rows s.usageEvents.rows
    rw [rows]
    exact monthSpend_backfill _
  · intro _
    change ZeroRouter.monthByokCatalog.Tallies rollup.rows s.usageEvents.rows
    rw [rows]
    exact monthByokCatalog_backfill house

theorem Inv.step {a : Action} (inv : Inv s) (h : step s a = some s') : Inv s' := by
  cases a with
  | insert event =>
      simp only [Rollout.step] at h
      split at h
      · cases h
      next open_ =>
      cases h
      rw [not_or, not_and] at open_
      refine ⟨fun locked => absurd locked open_.1, ?_, ?_, inv.house, inv.unfilled,
        inv.monthSpend, inv.monthByokCatalog⟩
      · intro insert hinsert
        rcases mem_append.mp hinsert with before | new
        · exact inv.pending insert before
        · rw [mem_singleton.mp new]
      · intro old insert hinsert
        rcases mem_append.mp hinsert with before | new
        · exact inv.pendingHouse old insert before
        · rw [mem_singleton.mp new]
          by_contra catalog
          exact open_.2 catalog old
  | commit i =>
      obtain ⟨pending, hpending, rfl⟩ := Option.map_eq_some_iff.mp h
      unfold State.endInsert
      cases happly : s.applyInsert pending with
      | error e => exact inv.erase i
      | ok applied =>
          have same : applied.inFlight = s.inFlight := by
            simp only [State.applyInsert, bind_eq_ok] at happly
            obtain ⟨events, -, rollup, -, happly⟩ := happly
            rw [← Except.ok.inj happly]
          have committed := (inv.applied (mem_of_getElem? hpending) happly).erase i
          rw [same] at committed
          exact committed
  | rollback i =>
      obtain ⟨pending, -, rfl⟩ := Option.map_eq_some_iff.mp h
      exact inv.erase i
  | createTrigger =>
      simp only [Rollout.step] at h
      split at h
      · next ready =>
          cases h
          exact inv.migrate ready.2 (by rw [ready.1]; rfl) fun _ => by rw [ready.1]; rfl
      · cases h
  | backfill =>
      simp only [Rollout.step] at h
      split at h
      · next phase =>
          split at h
          · next rollup filled =>
              cases h
              exact inv.backfilled phase filled
          · cases h
            exact inv.abandoned (inv.drained (by rw [phase]; rfl)) (by rw [phase]; rfl)
      · cases h
  | commitMonthly =>
      simp only [Rollout.step] at h
      split at h
      · next phase =>
          cases h
          exact inv.migrate (inv.drained (by rw [phase]; rfl)) (by rw [phase]; rfl)
            fun _ => by rw [phase]; rfl
      · cases h
  | abortMonthly =>
      simp only [Rollout.step] at h
      split at h
      · next phase =>
          cases h
          rcases phase with phase | phase <;>
            exact inv.abandoned (inv.drained (by rw [phase]; rfl)) (by rw [phase]; rfl)
      · cases h
  | alter =>
      simp only [Rollout.step] at h
      split at h
      · next ready =>
          cases h
          exact inv.migrate ready.2 (by rw [ready.1]; rfl) fun _ => by rw [ready.1]; rfl
      · cases h
  | commitAllowance =>
      simp only [Rollout.step] at h
      split at h
      · next phase =>
          cases h
          exact inv.migrate (inv.drained (by rw [phase]; rfl)) (by rw [phase]; rfl)
            fun old => by cases old
      · cases h
  | abortAllowance =>
      simp only [Rollout.step] at h
      split at h
      · next phase =>
          cases h
          exact inv.migrate (inv.drained (by rw [phase]; rfl)) (by rw [phase]; rfl)
            fun _ => by rw [phase]; rfl
      · cases h

/-- 0019 never fails for what the ledger holds. -/
theorem backfill_completes (inv : Inv s) (phase : s.phase = .triggered) :
    ∃ s', step s .backfill = some s' ∧ s'.phase = .backfilled := by
  obtain ⟨rollup, filled⟩ := backfill_isOk s.usageEvents
  rw [← inv.unfilled (by rw [phase]; rfl)] at filled
  refine ⟨{ s with phase := .backfilled, usageKeyMonthSpend := rollup }, ?_, rfl⟩
  simp only [step, if_pos phase, filled]

/-! ## The theorem -/

/-- The rollup is the ledger's, bucket by bucket and for every current month. -/
structure Exact (s : State) : Prop where
  /-- Every bucket, present or absent, holds its events' spend. -/
  spend : ∀ apiKeyId month,
    sumWhere (fun row => row.apiKeyId = apiKeyId ∧ row.month = month)
        UsageKeyMonthSpend.spendUsd s.usageKeyMonthSpend.rows =
      sumWhere (fun event => event.apiKeyId = apiKeyId ∧ usageEventUtcMonth event.ts = month)
        UsageEvent.costUsd s.usageEvents.rows
  /-- And their catalog cost, where an absent one counts as nothing. -/
  byokCatalog : ∀ apiKeyId month,
    sumWhere (fun row => row.apiKeyId = apiKeyId ∧ row.month = month)
        UsageKeyMonthSpend.byokCatalogUsd s.usageKeyMonthSpend.rows =
      sumWhere (fun event => event.apiKeyId = apiKeyId ∧ usageEventUtcMonth event.ts = month)
        (fun event => event.byokCatalogUsd.getD 0) s.usageEvents.rows
  /-- A bucket is one row, so those sums are that row's columns. -/
  row : ∀ row ∈ s.usageKeyMonthSpend,
    row.spendUsd = sumWhere
        (fun event => event.apiKeyId = row.apiKeyId ∧ usageEventUtcMonth event.ts = row.month)
        UsageEvent.costUsd s.usageEvents.rows ∧
      row.byokCatalogUsd = sumWhere
        (fun event => event.apiKeyId = row.apiKeyId ∧ usageEventUtcMonth event.ts = row.month)
        (fun event => event.byokCatalogUsd.getD 0) s.usageEvents.rows
  /-- The buckets of the current month and later, over any keys, hold the events
      since the month began, those of later months included. -/
  spendFrom : ∀ (now : Timestamp) (keys : Uuid → Prop) [DecidablePred keys],
    sumWhere (fun row => keys row.apiKeyId ∧ usageEventUtcMonth now ≤ row.month)
        UsageKeyMonthSpend.spendUsd s.usageKeyMonthSpend.rows =
      sumWhere (fun event => keys event.apiKeyId ∧ usageEventUtcMonth now ≤ event.ts)
        UsageEvent.costUsd s.usageEvents.rows
  byokCatalogFrom : ∀ (now : Timestamp) (keys : Uuid → Prop) [DecidablePred keys],
    sumWhere (fun row => keys row.apiKeyId ∧ usageEventUtcMonth now ≤ row.month)
        UsageKeyMonthSpend.byokCatalogUsd s.usageKeyMonthSpend.rows =
      sumWhere (fun event => keys event.apiKeyId ∧ usageEventUtcMonth now ≤ event.ts)
        (fun event => event.byokCatalogUsd.getD 0) s.usageEvents.rows

/-- A tally read at one bucket. -/
theorem tallies_bucket {rows : List UsageKeyMonthSpend} (tallies : R.Tallies rows events)
    (rowBucket : R.bucketOf = UsageKeyMonthSpend.bucket)
    (eventBucket : R.bucket = UsageEvent.monthBucket) (apiKeyId : Uuid) (month : Timestamp) :
    sumWhere (fun row => row.apiKeyId = apiKeyId ∧ row.month = month) R.total rows =
      sumWhere (fun event => event.apiKeyId = apiKeyId ∧ usageEventUtcMonth event.ts = month)
        R.amount events := by
  have scan := tallies fun bucket => bucket.1 = apiKeyId ∧ bucket.2 = month
  simp only [rowBucket, eventBucket] at scan
  exact scan

/-- One row of the table is the tally of its bucket. -/
theorem tallies_row (tallies : R.Tallies t.rows events)
    (rowBucket : R.bucketOf = UsageKeyMonthSpend.bucket)
    (eventBucket : R.bucket = UsageEvent.monthBucket) {row : UsageKeyMonthSpend} (hrow : row ∈ t) :
    R.total row = sumWhere
      (fun event => event.apiKeyId = row.apiKeyId ∧ usageEventUtcMonth event.ts = row.month)
      R.amount events := by
  have alone := tallies.row (fun a b same => by rw [rowBucket] at same; exact same) hrow
  rw [alone, Rollup.grouped, rowBucket, eventBucket]
  exact sumWhere_congr (fun _ _ => Prod.mk_inj) fun _ _ _ => rfl

/-- From 0019's backfill on, in every state that inserts, refused inserts,
    rollbacks and both migrations can reach, the rollup equals the ledger. -/
theorem rollup_equals_ledger {s₀ s : State} (opening : s₀.Opening)
    (run : Transition.Steps step Transition.anyStep s₀ s) (rolledUp : s.phase.isRolledUp = true) :
    Exact s := by
  have inv : Inv s := run.invariant (.opening opening) fun _ _ _ inv _ next => inv.step next
  have spend := inv.monthSpend rolledUp
  have catalog := inv.monthByokCatalog rolledUp
  constructor
  · exact tallies_bucket spend rfl rfl
  · exact tallies_bucket catalog rfl rfl
  · intro row hrow
    exact ⟨tallies_row spend rfl rfl hrow, tallies_row catalog rfl rfl hrow⟩
  · intro now keys _
    exact monthTotal_from spend rfl rfl now
  · intro now keys _
    exact monthTotal_from catalog rfl rfl now

/-! A ledger around the February of 2024, migrated under traffic. -/

def meteredAt (requestId : Uuid) (ts : Timestamp) (cost : Decimal) (catalog : Option Decimal) :
    UsageEvent where
  requestId := requestId
  apiKeyId := 10
  ts := ts
  tier := "standard"
  upstreamProvider := "openai"
  upstreamModel := "gpt"
  inputTokens := 100
  cachedInputTokens := 0
  outputTokens := 50
  costUsd := cost
  latencyMs := 900
  status := 200
  attemptsCostBasisUsd := none
  attemptsCostBasisComplete := none
  attemptCount := none
  reservedOutputTokens := none
  reservedCostUsd := none
  estimatorBasis := none
  byok := none
  byokCatalogUsd := catalog
  cacheWriteInputTokens := none

/-- The last instant of February and the first of March. -/
def februaryEnd : Timestamp := 1709251199999999
def marchStart : Timestamp := 1709251200000000

def leapDayLedger : State where
  phase := .unmigrated
  usageEvents :=
    { rows := [meteredAt 1 februaryEnd 3 none, meteredAt 2 marchStart 4 none]
      checked := by decide +kernel
      distinct := by decide }
  usageKeyMonthSpend := .empty
  inFlight := []

/-- An insert lands before the lock, one is replayed, one rolls back, and one
    carries a catalog cost. -/
def leapDayRun : List Action :=
  [.insert (meteredAt 3 februaryEnd 5 none), .commit 0, .createTrigger, .backfill, .commitMonthly,
    .insert (meteredAt 4 marchStart 6 none), .insert (meteredAt 4 marchStart 6 none), .commit 0,
    .commit 0, .alter, .commitAllowance, .insert (meteredAt 5 marchStart 7 (some 140)),
    .insert (meteredAt 6 marchStart 8 none), .rollback 1, .commit 0]

theorem rollup_equals_ledger_leapDay :
    ∃ s : State, s.usageKeyMonthSpend.rows.map
        (fun row => (row.month, row.spendUsd, row.byokCatalogUsd)) =
        [(marchStart, 17, 140), (1706745600000000, 8, 0)] ∧ Exact s := by
  have opening : leapDayLedger.Opening := ⟨rfl, rfl, rfl, by decide⟩
  have runs : (Transition.runWhile step Transition.anyStep leapDayLedger leapDayRun).any
      (fun s => s.phase = .allowance ∧ s.usageKeyMonthSpend.rows.map
        (fun row => (row.month, row.spendUsd, row.byokCatalogUsd)) =
        [(marchStart, 17, 140), (1706745600000000, 8, 0)]) = true := by
    decide +kernel
  obtain ⟨s, run, hs⟩ := Transition.Steps.exists_of_runWhile runs
  obtain ⟨phase, rows⟩ := of_decide_eq_true hs
  exact ⟨s, rows, rollup_equals_ledger opening run (by rw [phase]; rfl)⟩

end Rollout

end ZeroRouter
