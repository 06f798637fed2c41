import ZeroRouter.Windows
import ZeroRouter.Proofs.Rollout
import ZeroRouter.Proofs.Ceilings

/-!
# Every credit-limit window answers from the ledger

Where the three counters tally the ledger, admission's read, the portal's read and
a scan of the key's own events agree, whatever the cadence and the instant.  Every
state the rollout of 0023 can reach, before or after 0027, is such a state.
-/

namespace ZeroRouter

open Option List Relational Table

/-! ## The window -/

/-- The UTC instant the window that holds `now` began. -/
def CreditLimitWindow.start (now : Timestamp) : CreditLimitWindow → Timestamp
  | .daily => Civil.utcDay.start now
  | .weekly => Civil.utcWeek.start now
  | .monthly => Civil.utcMonth.start now

/-- What a key has spent in its window, off the ledger alone; a limit with no
    cadence counts everything. -/
def Db.ledgerWindowSpend (db : Db) (now : Timestamp) (key : ApiKey) : Decimal :=
  db.spent (· = key.id) (key.creditLimitWindow.map fun cadence => cadence.start now)

/-- The boundaries the SQL computes are the calendar's. -/
theorem creditLimitStart_eq (now : Timestamp) (window : Option CreditLimitWindow) :
    creditLimitStart now window = window.map fun cadence => cadence.start now := by
  cases window with
  | none => rfl
  | some cadence =>
      cases cadence with
      | daily => rfl
      | weekly => exact congrArg some (Civil.utcWeek_start now).symm
      | monthly => rfl

/-- Admission, the portal and the ledger agree about one key at one instant. -/
structure Db.AnswersFromLedger (db : Db) (now : Timestamp) (key : ApiKey) : Prop where
  portal :
    db.creditLimitUsed now key = key.creditLimitUsd.map fun _ => db.ledgerWindowSpend now key
  /-- Admission reads after its sweep, under the limit the key row carries. -/
  admission : ∀ (presented : AuthenticatedKey) (keyState : KeyState) (lane : MeteringLane)
    (swept : Db), presented.id = key.id → db.keyState now presented = some keyState →
    db.sweptFor lane now = .ok swept →
      keyState.creditLimitUsd = key.creditLimitUsd ∧
        swept.comparedWindowSpend now presented keyState = db.creditLimitUsed now key

section Reads

variable {db : Db} {now : Timestamp} {key : ApiKey}

/-- The one lifetime row a key has, or the `0` of a key that never spent. -/
theorem Db.Tallied.lifetimeRow (tallied : db.Tallied) (apiKeyId : Uuid) :
    ((db.usageKeyTotalSpend.find fun row => row.apiKeyId = apiKeyId).map
        UsageKeyTotalSpend.spendUsd).getD 0 = db.spent (· = apiKeyId) none := by
  have everything : db.spent (· = apiKeyId) none =
      sumWhere (fun event => event.apiKeyId = apiKeyId) UsageEvent.costUsd
        db.usageEvents.rows := by
    refine sumWhere_congr (fun event _ => ?_) fun _ _ _ => rfl
    simp [since]
  rw [everything]
  cases found : db.usageKeyTotalSpend.find fun row => row.apiKeyId = apiKeyId with
  | some row =>
      obtain ⟨mem, rfl⟩ := find_some found
      exact tallied.totalSpend.row (fun _ _ same => same) mem
  | none =>
      have scan := tallied.totalSpend fun id => id = apiKeyId
      exact (sumWhere_eq_zero (find_none found)).symm.trans scan

/-- One key's month buckets from the current one up. -/
theorem Db.Tallied.monthsFrom (tallied : db.Tallied) (now : Timestamp) (apiKeyId : Uuid) :
    sumWhere (fun row => row.apiKeyId = apiKeyId ∧ usageEventUtcMonth now ≤ row.month)
        UsageKeyMonthSpend.spendUsd db.usageKeyMonthSpend.rows =
      db.spent (· = apiKeyId) (some (usageEventUtcMonth now)) := by
  refine (monthTotal_from (P := (· = apiKeyId)) tallied.monthSpend rfl rfl now).trans ?_
  refine sumWhere_congr (fun event _ => ?_) fun _ _ _ => rfl
  simp [since]

/-- One key's day buckets from any day up. -/
theorem Db.Tallied.daysFrom (tallied : db.Tallied) (day : Int) (apiKeyId : Uuid) :
    sumWhere (fun row => row.apiKeyId = apiKeyId ∧ day ≤ row.day)
        UsageKeyDaySpend.spendUsd db.usageKeyDaySpend.rows =
      db.spent (· = apiKeyId) (some (dayStart day)) := by
  refine (dayTotal_from (P := (· = apiKeyId)) tallied.daySpend day).trans ?_
  refine sumWhere_congr (fun event _ => ?_) fun _ _ _ => rfl
  simp [since]

/-- What the portal shows is the scan. -/
theorem Db.Tallied.creditLimitUsed (tallied : db.Tallied) (now : Timestamp) (key : ApiKey) :
    db.creditLimitUsed now key =
      key.creditLimitUsd.map fun _ => db.ledgerWindowSpend now key := by
  unfold Db.creditLimitUsed Db.ledgerWindowSpend
  rw [← creditLimitStart_eq]
  cases key.creditLimitUsd with
  | none => rfl
  | some limit =>
      rw [map_some]
      cases key.creditLimitWindow with
      | none => exact congrArg some (tallied.lifetimeRow key.id)
      | some cadence =>
          cases cadence with
          | daily => exact congrArg some (tallied.daysFrom _ key.id)
          | weekly => exact congrArg some (tallied.daysFrom _ key.id)
          | monthly => exact congrArg some (tallied.monthsFrom now key.id)

/-- The row admission reads its limit from is the key's. -/
theorem Db.keyState_row {presented : AuthenticatedKey} {keyState : KeyState}
    (hkey : key ∈ db.apiKeys) (same : presented.id = key.id)
    (h : db.keyState now presented = some keyState) :
    keyState.creditLimitUsd = key.creditLimitUsd ∧
      keyState.creditLimitWindow = key.creditLimitWindow ∧ key.userId = presented.userId := by
  obtain ⟨presenting, found, rfl⟩ := map_eq_some_iff.mp h
  obtain ⟨hmem, hid, live, -⟩ := find_some found
  have row : presenting = key := eq_of_clash hmem hkey (hid.trans same)
  subst row
  exact ⟨rfl, rfl, live.1⟩

/-- A sweep changes nothing a window is read from. -/
theorem Db.sweptFor_comparedWindowSpend {lane : MeteringLane} {swept : Db}
    (h : db.sweptFor lane now = .ok swept) (presented : AuthenticatedKey) (keyState : KeyState) :
    swept.comparedWindowSpend now presented keyState =
      db.comparedWindowSpend now presented keyState := by
  cases lane with
  | free =>
      cases h
      rfl
  | reserved =>
      rw [(Db.sweepExpired_ok h).rest]
      rfl

/-- Where every derived total is the ledger's, the three reads of a window agree. -/
theorem Db.Tallied.answersFromLedger (tallied : db.Tallied) (now : Timestamp)
    (hkey : key ∈ db.apiKeys) : db.AnswersFromLedger now key where
  portal := tallied.creditLimitUsed now key
  admission := by
    intro presented keyState lane swept same found sweep
    obtain ⟨limit, cadence, owner⟩ := Db.keyState_row hkey same found
    refine ⟨limit, ?_⟩
    rw [Db.sweptFor_comparedWindowSpend sweep, tallied.creditLimitUsed, Db.comparedWindowSpend]
    cases limited : keyState.creditLimitUsd with
    | none =>
        rw [limit] at limited
        rw [limited]
        rfl
    | some amount =>
        have owned : db.owns presented.userId presented.id := ⟨key, hkey, same.symm, owner⟩
        have scan :
            (db.settledUsage now presented keyState.spendWindow).windowSpend
                keyState.creditLimitWindow =
              db.spent (· = presented.id) (creditLimitStart now keyState.creditLimitWindow) :=
          tallied.windowSpend owned limited
        rw [limit] at limited
        rw [limited, map_some, map_some, scan, cadence, same, creditLimitStart_eq]
        rfl

end Reads

/-! ## The rollout -/

namespace Windows

variable {s s' : State} {a : Action} {pending : PendingInsert} {r : Rollout.State}
  {b : Rollout.Action} {windows : Phase}

/-! ### 0019 and 0027 run as they did -/

/-- Erasing an insert in flight erases what the monthly migrations see of it. -/
theorem rollout_erase (s : State) (i : Nat) :
    ({ s with inFlight := s.inFlight.eraseIdx i } : State).rollout =
      { s.rollout with inFlight := s.rollout.inFlight.eraseIdx i } := by
  simp [State.rollout, eraseIdx_map]

/-- What an insert's transaction writes, all of it. -/
theorem applyInsert_ok (h : s.applyInsert pending = .ok s') :
    ∃ month,
      s.db.usageEvents.insert pending.rollout.event = .ok s'.db.usageEvents ∧
      pending.rollout.ranIn.accrue s.db.usageKeyMonthSpend pending.rollout.event = .ok month ∧
      pending.ranIn.accrueDay s.db.usageKeyDaySpend pending.rollout.event =
        .ok s'.db.usageKeyDaySpend ∧
      pending.ranIn.accrueTotal s.db.usageKeyTotalSpend pending.rollout.event =
        .ok s'.db.usageKeyTotalSpend ∧
      s' = { s with db := { s.db with
        usageEvents := s'.db.usageEvents
        usageKeyMonthSpend := month
        usageKeyDaySpend := s'.db.usageKeyDaySpend
        usageKeyTotalSpend := s'.db.usageKeyTotalSpend } } := by
  simp only [State.applyInsert, bind_eq_ok, liftViolation_eq_ok] at h
  obtain ⟨events, hevents, _, -, month, hmonth, day, hday, total, htotal, h⟩ := h
  have h := (Except.ok.inj h).symm
  subst h
  exact ⟨month, hevents, hmonth, hday, htotal, rfl⟩

/-- An insert that commits here commits there. -/
theorem rollout_applied (h : s.applyInsert pending = .ok s') :
    s.rollout.applyInsert pending.rollout = .ok s'.rollout := by
  obtain ⟨month, events, accrued, -, -, rest⟩ := applyInsert_ok h
  unfold Rollout.State.applyInsert
  rw [bind_eq_ok]
  refine ⟨_, events, ?_⟩
  rw [bind_eq_ok]
  refine ⟨month, accrued, ?_⟩
  rw [rest]
  rfl

/-- A migration touches its phase and the monthly rollup; and 0027, whose turn it
    is once 0023 is in, keeps the rollup filled. -/
theorem migrate_frame {r' : Rollout.State} (turn : s.mayMigrate b = true)
    (h : Rollout.step r b = some r') :
    r' = { r with phase := r'.phase, usageKeyMonthSpend := r'.usageKeyMonthSpend } ∧
      (s.windows ≠ .unmigrated → r'.phase.isRolledUp = true) := by
  cases b with
  | insert | commit | rollback => cases turn
  | createTrigger | commitMonthly | abortMonthly =>
      have first : s.windows = .unmigrated := of_decide_eq_true turn
      simp only [Rollout.step] at h
      split at h
      · cases h
        exact ⟨rfl, fun later => absurd first later⟩
      · cases h
  | backfill =>
      have first : s.windows = .unmigrated := of_decide_eq_true turn
      simp only [Rollout.step] at h
      split at h
      · split at h <;> cases h <;> exact ⟨rfl, fun later => absurd first later⟩
      · cases h
  | alter | commitAllowance | abortAllowance =>
      simp only [Rollout.step] at h
      split at h
      · cases h
        exact ⟨rfl, fun _ => rfl⟩
      · cases h

/-- A step is one of 0019's and 0027's rollout, or one they do not see. -/
theorem rollout_step (h : step s a = some s') :
    s'.rollout = s.rollout ∨ ∃ b, Rollout.step s.rollout b = some s'.rollout := by
  cases a with
  | insert event =>
      simp only [step] at h
      split at h
      · cases h
      · obtain ⟨r, hr, rfl⟩ := map_eq_some_iff.mp h
        refine .inr ⟨.insert event, ?_⟩
        rw [hr]
        simp only [Rollout.step] at hr
        split at hr
        · cases hr
        · rw [← Option.some.inj hr]
          simp [State.rollout]
  | commit i =>
      obtain ⟨pending, hpending, rfl⟩ := map_eq_some_iff.mp h
      have seen : s.rollout.inFlight[i]? = some pending.rollout := by
        simp [State.rollout, hpending]
      unfold State.endInsert
      cases happly : s.applyInsert pending with
      | error e =>
          refine .inr ⟨.rollback i, ?_⟩
          simp only [Rollout.step, seen, map_some]
          rw [rollout_erase]
      | ok applied =>
          refine .inr ⟨.commit i, ?_⟩
          obtain ⟨month, -, -, -, -, rest⟩ := applyInsert_ok happly
          have same : applied.inFlight = s.inFlight := by rw [rest]
          simp only [Rollout.step, seen, map_some, Rollout.State.endInsert,
            rollout_applied happly]
          rw [← same, rollout_erase]
          simp [State.rollout, same]
  | rollback i =>
      obtain ⟨pending, hpending, rfl⟩ := map_eq_some_iff.mp h
      have seen : s.rollout.inFlight[i]? = some pending.rollout := by
        simp [State.rollout, hpending]
      refine .inr ⟨.rollback i, ?_⟩
      simp only [Rollout.step, seen, map_some]
      rw [rollout_erase]
  | migrate b =>
      simp only [step] at h
      split at h
      · next turn =>
          obtain ⟨r, hr, rfl⟩ := map_eq_some_iff.mp h
          refine .inr ⟨b, ?_⟩
          rw [hr]
          congr 1
          exact (migrate_frame turn hr).1
      · cases h
  | createTrigger =>
      simp only [step] at h
      split at h
      · cases h
        exact .inl rfl
      · cases h
  | backfillDays =>
      simp only [step] at h
      split at h
      · split at h <;> cases h <;> exact .inl rfl
      · cases h
  | backfillTotals =>
      simp only [step] at h
      split at h
      · split at h <;> cases h <;> exact .inl rfl
      · cases h
  | commitWindows =>
      simp only [step] at h
      split at h
      · cases h
        exact .inl rfl
      · cases h
  | abortWindows =>
      simp only [step] at h
      split at h
      · cases h
        exact .inl rfl
      · cases h
  | editKeys apiKeys =>
      cases h
      exact .inl rfl

/-! ### The backfill -/

/-- One grouped row a day and key can never be refused. -/
theorem backfillDays_isOk (usageEvents : Table usageEventsTable) :
    ∃ days, (empty : Table usageKeyDaySpendTable).insertAll
      (dayBackfillRows usageEvents.rows) = .ok days := by
  apply insertAll_isOk
  · intro row hrow
    obtain ⟨bucket, -, rfl⟩ := mem_map.mp hrow
    apply sumWhere_nonneg
    intro event hevent _
    exact (usageEvents.checked event hevent).costIsNonnegative
  · rw [rows_empty, nil_append, dayBackfillRows, pairwise_map]
    exact (nodup_dedup _).imp fun apart same => apart same

theorem backfillTotals_isOk (usageEvents : Table usageEventsTable) :
    ∃ totals, (empty : Table usageKeyTotalSpendTable).insertAll
      (totalBackfillRows usageEvents.rows) = .ok totals := by
  apply insertAll_isOk
  · intro row hrow
    obtain ⟨apiKeyId, -, rfl⟩ := mem_map.mp hrow
    apply sumWhere_nonneg
    intro event hevent _
    exact (usageEvents.checked event hevent).costIsNonnegative
  · rw [rows_empty, nil_append, totalBackfillRows, pairwise_map]
    exact (nodup_dedup _).imp fun apart same => apart same

/-! ### The invariant -/

structure Inv (s : State) : Prop where
  monthly : Rollout.Inv s.rollout
  /-- 0023 comes after 0019. -/
  ordered : s.windows ≠ .unmigrated → s.monthly.isRolledUp = true
  /-- Its lock is exclusive. -/
  drained : s.windows.isLocked = true → s.inFlight = []
  /-- An insert in flight met the trigger of the schema that is still there. -/
  pending : ∀ insert ∈ s.inFlight, insert.ranIn = s.windows
  noDays : s.windows.hasDays = false → s.db.usageKeyDaySpend = .empty
  noTotals : s.windows.hasTotals = false → s.db.usageKeyTotalSpend = .empty
  daySpend : s.windows.hasDays = true →
    daySpend.Tallies s.db.usageKeyDaySpend.rows s.db.usageEvents.rows
  totalSpend : s.windows.hasTotals = true →
    totalSpend.Tallies s.db.usageKeyTotalSpend.rows s.db.usageEvents.rows

theorem Inv.opening (h : s.Opening) : Inv s where
  monthly := .opening h.rollout
  ordered later := absurd h.windows later
  drained locked := by
    rw [h.windows] at locked
    cases locked
  pending := by
    have idle : s.inFlight = [] := map_eq_nil_iff.mp h.rollout.inFlight
    simp [idle]
  noDays _ := h.usageKeyDaySpend
  noTotals _ := h.usageKeyTotalSpend
  daySpend days := by
    rw [h.windows] at days
    cases days
  totalSpend totals := by
    rw [h.windows] at totals
    cases totals

/-- What 0019 and 0027 see of a step keeps their invariant. -/
theorem Inv.monthly_step (inv : Inv s) (h : step s a = some s') :
    Rollout.Inv s'.rollout := by
  rcases rollout_step h with same | ⟨b, next⟩
  · rw [same]
    exact inv.monthly
  · exact inv.monthly.step next

/-- Ending an insert without a trace. -/
theorem Inv.erase (inv : Inv s) (i : Nat) : Inv { s with inFlight := s.inFlight.eraseIdx i } where
  monthly := by
    rw [rollout_erase]
    exact inv.monthly.erase i
  ordered := inv.ordered
  drained locked := by
    change s.inFlight.eraseIdx i = []
    rw [inv.drained locked]
    rfl
  pending insert hinsert := inv.pending insert (mem_of_mem_eraseIdx hinsert)
  noDays := inv.noDays
  noTotals := inv.noTotals
  daySpend := inv.daySpend
  totalSpend := inv.totalSpend

/-- An insert that commits brings its row and its accruals together. -/
theorem Inv.applied (inv : Inv s) (hpending : pending ∈ s.inFlight)
    (h : s.applyInsert pending = .ok s') : Inv s' := by
  have ran := inv.pending pending hpending
  have open_ : s.windows.isLocked = false := by
    by_contra locked
    rw [inv.drained (by simpa using locked)] at hpending
    cases hpending
  have monthly : Rollout.Inv s'.rollout :=
    inv.monthly.applied (mem_map_of_mem hpending) (rollout_applied h)
  obtain ⟨month, hevents, -, hday, htotal, rest⟩ := applyInsert_ok h
  have appended := (insert_ok hevents).1
  have sameWindows : s'.windows = s.windows := by rw [rest]
  have sameInFlight : s'.inFlight = s.inFlight := by rw [rest]
  have sameMonthly : s'.monthly = s.monthly := by rw [rest]
  rw [ran] at hday htotal
  cases phase : s.windows with
  | triggered | dayBackfilled | backfilled =>
      rw [phase] at open_
      cases open_
  | unmigrated =>
      rw [phase] at hday htotal
      have noDays := inv.noDays (by rw [phase]; rfl)
      have noTotals := inv.noTotals (by rw [phase]; rfl)
      refine ⟨monthly, ?_, ?_, ?_, ?_, ?_, ?_, ?_⟩ <;> rw [sameWindows]
      · rw [sameMonthly]
        exact inv.ordered
      · rw [sameInFlight]
        exact inv.drained
      · rw [sameInFlight]
        exact inv.pending
      · exact fun _ => (Except.ok.inj hday).symm.trans noDays
      · exact fun _ => (Except.ok.inj htotal).symm.trans noTotals
      · intro days
        rw [phase] at days
        cases days
      · intro totals
        rw [phase] at totals
        cases totals
  | windowed =>
      rw [phase] at hday htotal
      have days := inv.daySpend (by rw [phase]; rfl)
      have totals := inv.totalSpend (by rw [phase]; rfl)
      refine ⟨monthly, ?_, ?_, ?_, ?_, ?_, ?_, ?_⟩ <;> rw [sameWindows]
      · rw [sameMonthly]
        exact inv.ordered
      · rw [sameInFlight]
        exact inv.drained
      · rw [sameInFlight]
        exact inv.pending
      · intro noDays
        rw [phase] at noDays
        cases noDays
      · intro noTotals
        rw [phase] at noTotals
        cases noTotals
      · intro _
        rw [appended]
        exact daySpend_accrue days hday
      · intro _
        rw [appended]
        exact totalSpend_accrue totals htotal

/-- A step of 0023 that leaves the tables alone, with no insert in flight. -/
theorem Inv.advance (inv : Inv s) (idle : s.inFlight = []) (later : s.monthly.isRolledUp = true)
    (days : windows.hasDays = s.windows.hasDays)
    (totals : windows.hasTotals = s.windows.hasTotals) : Inv { s with windows } where
  monthly := inv.monthly
  ordered _ := later
  drained _ := idle
  pending := by simp [idle]
  noDays absent := inv.noDays (days.symm.trans absent)
  noTotals absent := inv.noTotals (totals.symm.trans absent)
  daySpend present := inv.daySpend (days.symm.trans present)
  totalSpend present := inv.totalSpend (totals.symm.trans present)

theorem Inv.abandoned (inv : Inv s) (idle : s.inFlight = []) : Inv s.abandonWindows where
  monthly := inv.monthly
  ordered later := absurd rfl later
  drained _ := idle
  pending := by simp [State.abandonWindows, idle]
  noDays _ := rfl
  noTotals _ := rfl
  daySpend days := by cases days
  totalSpend totals := by cases totals

/-- The day backfill reads a ledger nothing is in flight on. -/
theorem Inv.daysFilled (inv : Inv s) (phase : s.windows = .triggered)
    {days : Table usageKeyDaySpendTable}
    (h : s.db.usageKeyDaySpend.insertAll (dayBackfillRows s.db.usageEvents.rows) = .ok days) :
    Inv { s with windows := .dayBackfilled, db := { s.db with usageKeyDaySpend := days } } where
  monthly := inv.monthly
  ordered _ := inv.ordered (by simp [phase])
  drained _ := inv.drained (by rw [phase]; rfl)
  pending := by simp [inv.drained (by rw [phase]; rfl)]
  noDays absent := by cases absent
  noTotals _ := inv.noTotals (by rw [phase]; rfl)
  daySpend _ := by
    change ZeroRouter.daySpend.Tallies days.rows s.db.usageEvents.rows
    rw [insertAll_ok h, inv.noDays (by rw [phase]; rfl), rows_empty, nil_append]
    exact Rollup.tallies_grouped (fun _ => rfl) fun _ => rfl
  totalSpend totals := by cases totals

theorem Inv.totalsFilled (inv : Inv s) (phase : s.windows = .dayBackfilled)
    {totals : Table usageKeyTotalSpendTable}
    (h : s.db.usageKeyTotalSpend.insertAll (totalBackfillRows s.db.usageEvents.rows) =
      .ok totals) :
    Inv { s with windows := .backfilled, db := { s.db with usageKeyTotalSpend := totals } } where
  monthly := inv.monthly
  ordered _ := inv.ordered (by simp [phase])
  drained _ := inv.drained (by rw [phase]; rfl)
  pending := by simp [inv.drained (by rw [phase]; rfl)]
  noDays absent := by cases absent
  noTotals absent := by cases absent
  daySpend _ := inv.daySpend (by rw [phase]; rfl)
  totalSpend _ := by
    change ZeroRouter.totalSpend.Tallies totals.rows s.db.usageEvents.rows
    rw [insertAll_ok h, inv.noTotals (by rw [phase]; rfl), rows_empty,
      nil_append]
    exact Rollup.tallies_grouped (fun _ => rfl) fun _ => rfl

theorem Inv.step (inv : Inv s) (h : step s a = some s') : Inv s' := by
  have monthly := inv.monthly_step h
  cases a with
  | insert event =>
      simp only [Windows.step] at h
      split at h
      · cases h
      next open_ =>
      obtain ⟨r, -, rfl⟩ := map_eq_some_iff.mp h
      refine ⟨monthly, inv.ordered, fun locked => absurd locked open_, ?_, inv.noDays,
        inv.noTotals, inv.daySpend, inv.totalSpend⟩
      intro insert hinsert
      rcases mem_append.mp hinsert with before | new
      · exact inv.pending insert before
      · rw [mem_singleton.mp new]
  | commit i =>
      obtain ⟨pending, hpending, rfl⟩ := map_eq_some_iff.mp h
      unfold State.endInsert
      cases happly : s.applyInsert pending with
      | error e => exact inv.erase i
      | ok applied =>
          obtain ⟨month, -, -, -, -, rest⟩ := applyInsert_ok happly
          have same : applied.inFlight = s.inFlight := by rw [rest]
          have committed := (inv.applied (mem_of_getElem? hpending) happly).erase i
          rw [same] at committed
          exact committed
  | rollback i =>
      obtain ⟨pending, -, rfl⟩ := map_eq_some_iff.mp h
      exact inv.erase i
  | migrate b =>
      simp only [Windows.step] at h
      split at h
      · next turn =>
          obtain ⟨r, hr, rfl⟩ := map_eq_some_iff.mp h
          exact ⟨monthly, (migrate_frame turn hr).2, inv.drained, inv.pending, inv.noDays,
            inv.noTotals, inv.daySpend, inv.totalSpend⟩
      · cases h
  | createTrigger =>
      simp only [Windows.step] at h
      split at h
      · next ready =>
          cases h
          obtain ⟨afterMonthly, phase, idle⟩ := ready
          exact inv.advance idle (by rw [afterMonthly]; rfl) (by rw [phase]; rfl)
            (by rw [phase]; rfl)
      · cases h
  | backfillDays =>
      simp only [Windows.step] at h
      split at h
      · next phase =>
          split at h
          · next filled =>
              cases h
              exact inv.daysFilled phase filled
          · cases h
            exact inv.abandoned (inv.drained (by rw [phase]; rfl))
      · cases h
  | backfillTotals =>
      simp only [Windows.step] at h
      split at h
      · next phase =>
          split at h
          · next filled =>
              cases h
              exact inv.totalsFilled phase filled
          · cases h
            exact inv.abandoned (inv.drained (by rw [phase]; rfl))
      · cases h
  | commitWindows =>
      simp only [Windows.step] at h
      split at h
      · next phase =>
          cases h
          exact inv.advance (inv.drained (by rw [phase]; rfl)) (inv.ordered (by simp [phase]))
            (by rw [phase]; rfl) (by rw [phase]; rfl)
      · cases h
  | abortWindows =>
      simp only [Windows.step] at h
      split at h
      · next locked =>
          cases h
          exact inv.abandoned (inv.drained locked)
      · cases h
  | editKeys apiKeys =>
      cases h
      exact ⟨monthly, inv.ordered, inv.drained, inv.pending, inv.noDays, inv.noTotals,
        inv.daySpend, inv.totalSpend⟩

/-- With 0023 in, every derived total is the ledger's. -/
theorem Inv.tallied (inv : Inv s) (windowed : s.windows = .windowed) : s.db.Tallied where
  monthSpend := inv.monthly.monthSpend (inv.ordered (by simp [windowed]))
  monthByokCatalog := inv.monthly.monthByokCatalog (inv.ordered (by simp [windowed]))
  daySpend := inv.daySpend (by rw [windowed]; rfl)
  totalSpend := inv.totalSpend (by rw [windowed]; rfl)

/-! ## The theorem -/

/-- After 0023, in every state that inserts, refused inserts, rollbacks, edits of
    the keys and 0027 can reach, every window of every key answers from the
    ledger. -/
theorem windows_answerFromLedger {s₀ s : State} (opening : s₀.Opening)
    (run : Transition.Steps step Transition.anyStep s₀ s) (windowed : s.windows = .windowed)
    (now : Timestamp) {key : ApiKey} (hkey : key ∈ s.db.apiKeys) :
    s.db.AnswersFromLedger now key := by
  have inv : Inv s := run.invariant (.opening opening) fun _ _ _ inv _ next => inv.step next
  exact (inv.tallied windowed).answersFromLedger now hkey

/-! A weekly key around the new year of 2025, whose Monday was in December. -/

def weeklyKey : ApiKey where
  id := 12
  userId := 1
  spendCapUsd := 1000
  velocityCapTokensPerMin := 100000
  disabled := false
  expiresAt := none
  creditLimitUsd := some 100
  creditLimitWindow := some .weekly

def weeklyMetered (requestId : Uuid) (ts : Timestamp) (cost : Decimal) : UsageEvent :=
  { Rollout.meteredAt requestId ts cost none with apiKeyId := 12 }

def sundayEnd : Timestamp := 1735516799999999
def mondayStart : Timestamp := 1735516800000000
def newYearsDay : Timestamp := 1735732800000000
def thursdayMorning : Timestamp := 1735804800000000
def thursdayEvening : Timestamp := 1735848000000000

def newYearLedger : State where
  monthly := .unmigrated
  windows := .unmigrated
  db :=
    { Db.fresh .empty .empty with
      usageEvents :=
        { rows := [weeklyMetered 1 sundayEnd 3, weeklyMetered 2 mondayStart 5]
          checked := by decide +kernel
          distinct := by decide } }
  inFlight := []

/-- Both older migrations, 0023, a replayed insert, one rolled back, one of later
    than the read. -/
def newYearRun : List Action :=
  [.editKeys { rows := [weeklyKey], checked := by decide +kernel, distinct := by decide },
    .migrate .createTrigger, .migrate .backfill, .migrate .commitMonthly,
    .insert (weeklyMetered 3 newYearsDay 7), .commit 0, .createTrigger, .backfillDays,
    .backfillTotals, .commitWindows, .insert (weeklyMetered 3 newYearsDay 7),
    .insert (weeklyMetered 4 newYearsDay 9), .commit 0, .rollback 0,
    .insert (weeklyMetered 5 thursdayEvening 11), .commit 0, .migrate .alter,
    .migrate .commitAllowance]

theorem windows_answerFromLedger_newYear :
    ∃ s : State, s.db.creditLimitUsed thursdayMorning weeklyKey = some 23 ∧
      s.db.AnswersFromLedger thursdayMorning weeklyKey := by
  have opening : newYearLedger.Opening := ⟨⟨rfl, rfl, rfl, by decide⟩, rfl, rfl, rfl⟩
  have runs : (Transition.runWhile step Transition.anyStep newYearLedger newYearRun).any
      (fun s => s.windows = .windowed ∧ weeklyKey ∈ s.db.apiKeys.rows ∧
        s.db.creditLimitUsed thursdayMorning weeklyKey = some 23) = true := by
    decide +kernel
  obtain ⟨s, run, hs⟩ := Transition.Steps.exists_of_runWhile runs
  obtain ⟨windowed, hkey, used⟩ := of_decide_eq_true hs
  exact ⟨s, used, windows_answerFromLedger opening run windowed thursdayMorning hkey⟩

/-! ## What is left to do -/

/-- Where 0019 and 0027 can stand, given where 0023 does. -/
def Phase.inOrder : Phase → Rollout.Phase → Bool
  | .unmigrated, older => older ≠ .altered && older ≠ .allowance
  | .windowed, older => older = .monthly || older = .altered || older = .allowance
  | _, older => older = .monthly

theorem inOrder_step (h : step s a = some s') (order : s.windows.inOrder s.monthly = true) :
    s'.windows.inOrder s'.monthly = true := by
  cases a with
  | insert event =>
      simp only [step] at h
      split at h
      · cases h
      · obtain ⟨-, -, rfl⟩ := map_eq_some_iff.mp h
        exact order
  | commit i =>
      obtain ⟨pending, -, rfl⟩ := map_eq_some_iff.mp h
      cases happly : s.applyInsert pending with
      | error e => exact order
      | ok applied =>
          obtain ⟨month, -, -, -, -, rest⟩ := applyInsert_ok happly
          rw [rest]
          exact order
  | rollback i =>
      obtain ⟨pending, -, rfl⟩ := map_eq_some_iff.mp h
      exact order
  | migrate b =>
      simp only [step] at h
      split at h
      · next turn =>
          obtain ⟨r, hr, rfl⟩ := map_eq_some_iff.mp h
          show s.windows.inOrder r.phase = true
          cases b with
          | insert | commit | rollback => cases turn
          | backfill =>
              rw [show s.windows = .unmigrated from of_decide_eq_true turn]
              simp only [Rollout.step] at hr
              split at hr
              · split at hr <;> cases hr <;> rfl
              · cases hr
          | createTrigger | commitMonthly | abortMonthly | alter | commitAllowance
          | abortAllowance =>
              have phase := of_decide_eq_true turn
              simp only [Rollout.step] at hr
              split at hr <;> cases hr
              rw [phase]
              rfl
      · cases h
  | createTrigger | commitWindows =>
      simp only [step] at h
      split at h
      · cases h
        simp_all [Phase.inOrder]
      · cases h
  | backfillDays | backfillTotals =>
      simp only [step] at h
      split at h
      · split at h <;> cases h <;> simp_all [Phase.inOrder, State.abandonWindows]
      · cases h
  | abortWindows =>
      simp only [step] at h
      split at h
      · next locked =>
          cases h
          cases phase : s.windows <;> simp_all [Phase.inOrder, Phase.isLocked, State.abandonWindows]
      · cases h
  | editKeys apiKeys =>
      cases h
      exact order

/-- The steps of 0019 and 0027 that are still to come. -/
def monthlyLeft : Rollout.Phase → Nat
  | .unmigrated => 5
  | .triggered => 4
  | .backfilled => 3
  | .monthly => 2
  | .altered => 1
  | .allowance => 0

/-- And those of 0023. -/
def Phase.left : Phase → Nat
  | .unmigrated => 4
  | .triggered => 3
  | .dayBackfilled => 2
  | .backfilled => 1
  | .windowed => 0

/-- Every insert in flight and every step of a migration. -/
def State.left (s : State) : Nat := s.inFlight.length + monthlyLeft s.monthly + s.windows.left

/-- A step that leaves less to do and the ledger as it is. -/
def Nearer (s : State) : Prop :=
  ∃ a s', step s a = some s' ∧ s'.db.usageEvents = s.db.usageEvents ∧ s'.left < s.left

theorem nearer_of_migrate (turn : s.mayMigrate b = true) (h : Rollout.step s.rollout b = some r)
    (less : monthlyLeft r.phase < monthlyLeft s.monthly) :
    Nearer s := by
  refine ⟨.migrate b, s.migrated r, ?_, rfl, ?_⟩
  · simp only [step, if_pos turn, h, map_some]
  · show s.inFlight.length + monthlyLeft r.phase + s.windows.left < s.left
    unfold State.left
    omega

theorem nearer_of_windows {db : Db} (h : step s a = some { s with windows, db })
    (events : db.usageEvents = s.db.usageEvents) (less : windows.left < s.windows.left) :
    Nearer s := by
  refine ⟨a, _, h, events, ?_⟩
  show s.inFlight.length + monthlyLeft s.monthly + windows.left < s.left
  unfold State.left
  omega

/-- Nothing in flight: the next of the migrations goes through. -/
theorem nearer_of_idle (inv : Inv s) (order : s.windows.inOrder s.monthly = true)
    (idle : s.inFlight = []) (unfinished : ¬ (s.windows = .windowed ∧ s.monthly = .allowance)) :
    Nearer s := by
  have drained : s.rollout.inFlight = [] := map_eq_nil_iff.mpr idle
  cases windows : s.windows with
  | unmigrated =>
      have turn (b : Rollout.Action) (older : s.mayMigrate b = (s.windows = .unmigrated : Bool)) :
          s.mayMigrate b = true := by rw [older, windows]; rfl
      cases monthly : s.monthly with
      | unmigrated =>
          refine nearer_of_migrate (turn .createTrigger rfl)
            (if_pos ⟨monthly, drained⟩) ?_
          simp [monthly, monthlyLeft]
      | triggered =>
          obtain ⟨r, filled, phase⟩ := Rollout.backfill_completes inv.monthly monthly
          refine nearer_of_migrate (turn .backfill rfl) filled ?_
          rw [monthly, phase]
          decide
      | backfilled =>
          refine nearer_of_migrate (turn .commitMonthly rfl) (if_pos monthly) ?_
          simp [monthly, monthlyLeft]
      | monthly =>
          have created : step s .createTrigger = some { s with windows := .triggered } :=
            if_pos ⟨monthly, windows, idle⟩
          exact nearer_of_windows created rfl (by rw [windows]; decide)
      | altered | allowance =>
          rw [windows, monthly] at order
          cases order
  | triggered =>
      obtain ⟨days, filled⟩ := backfillDays_isOk s.db.usageEvents
      rw [← inv.noDays (by rw [windows]; rfl)] at filled
      have stepped : step s .backfillDays = some { s with
          windows := .dayBackfilled, db := { s.db with usageKeyDaySpend := days } } := by
        simp only [step, if_pos windows, filled]
      exact nearer_of_windows stepped rfl (by rw [windows]; decide)
  | dayBackfilled =>
      obtain ⟨totals, filled⟩ := backfillTotals_isOk s.db.usageEvents
      rw [← inv.noTotals (by rw [windows]; rfl)] at filled
      have stepped : step s .backfillTotals = some { s with
          windows := .backfilled, db := { s.db with usageKeyTotalSpend := totals } } := by
        simp only [step, if_pos windows, filled]
      exact nearer_of_windows stepped rfl (by rw [windows]; decide)
  | backfilled =>
      have committed : step s .commitWindows = some { s with windows := .windowed } :=
        if_pos windows
      exact nearer_of_windows committed rfl (by rw [windows]; decide)
  | windowed =>
      cases monthly : s.monthly with
      | monthly =>
          refine nearer_of_migrate (b := .alter) (decide_eq_true windows)
            (if_pos ⟨monthly, drained⟩) ?_
          simp [monthly, monthlyLeft]
      | altered =>
          refine nearer_of_migrate (b := .commitAllowance) (decide_eq_true windows)
            (if_pos monthly) ?_
          simp [monthly, monthlyLeft]
      | allowance => exact absurd ⟨windows, monthly⟩ unfinished
      | unmigrated | triggered | backfilled =>
          rw [windows, monthly] at order
          cases order

/-- An insert in flight can be rolled back. -/
theorem nearer_of_inFlight (busy : s.inFlight ≠ []) : Nearer s := by
  obtain ⟨pending, rest, inFlight⟩ := exists_cons_of_ne_nil busy
  refine ⟨.rollback 0, { s with inFlight := s.inFlight.eraseIdx 0 }, ?_, rfl, ?_⟩
  · simp only [step, inFlight, getElem?_cons_zero, map_some]
  · unfold State.left
    simp [inFlight]

/-- No run of the migrations is stuck: from wherever inserts, aborts and edits have taken it, all
    three can still go in, over the ledger as it stands and with every window answering from it. -/
theorem rollout_completes {s₀ s : State} (opening : s₀.Opening)
    (run : Transition.Steps step Transition.anyStep s₀ s) :
    ∃ s', Transition.Steps step Transition.anyStep s s' ∧
      (s'.windows = .windowed ∧ s'.monthly = .allowance) ∧
      s'.db.usageEvents = s.db.usageEvents ∧
      ∀ now, ∀ key ∈ s'.db.apiKeys, s'.db.AnswersFromLedger now key := by
  have start : Inv s ∧ s.windows.inOrder s.monthly = true := by
    refine run.invariant (I := fun t => Inv t ∧ t.windows.inOrder t.monthly = true)
      ⟨.opening opening, ?_⟩ fun _ _ _ kept _ next => ⟨kept.1.step next, inOrder_step next kept.2⟩
    rw [opening.windows, show s₀.monthly = .unmigrated from opening.rollout.phase]
    rfl
  have progress : ∀ t, (Inv t ∧ t.windows.inOrder t.monthly = true ∧
      t.db.usageEvents = s.db.usageEvents) → ¬ (t.windows = .windowed ∧ t.monthly = .allowance) →
      ∃ a t', Transition.anyStep t a ∧ step t a = some t' ∧
        (Inv t' ∧ t'.windows.inOrder t'.monthly = true ∧
          t'.db.usageEvents = s.db.usageEvents) ∧ t'.left < t.left := by
    intro t ⟨inv, order, events⟩ unfinished
    have nearer : Nearer t := by
      by_cases idle : t.inFlight = []
      · exact nearer_of_idle inv order idle unfinished
      · exact nearer_of_inFlight idle
    obtain ⟨a, t', next, same, less⟩ := nearer
    exact ⟨a, t', trivial, next, ⟨inv.step next, inOrder_step next order, same.trans events⟩, less⟩
  obtain ⟨s', further, ⟨inv, -, events⟩, ended⟩ :=
    Transition.Steps.exists_of_progress progress ⟨start.1, start.2, rfl⟩
  exact ⟨s', further, ended, events,
    fun now key mem => (inv.tallied ended.1).answersFromLedger now mem⟩

/-- 0023 is aborted between its two backfills, and an insert is in flight. -/
def abortedRun : List Action :=
  [.migrate .createTrigger, .migrate .backfill, .migrate .commitMonthly, .createTrigger,
    .backfillDays, .abortWindows, .insert (weeklyMetered 3 newYearsDay 7)]

theorem rollout_completes_aborted : ∃ s s' : State,
    (s.windows = .unmigrated ∧ s.inFlight.length = 1) ∧
      Transition.Steps step Transition.anyStep s s' ∧ s'.windows = .windowed ∧
      s'.db.usageEvents = s.db.usageEvents := by
  have opening : newYearLedger.Opening := ⟨⟨rfl, rfl, rfl, by decide⟩, rfl, rfl, rfl⟩
  have runs : (Transition.runWhile step Transition.anyStep newYearLedger abortedRun).any
      (fun s => s.windows = .unmigrated ∧ s.inFlight.length = 1) = true := by
    decide +kernel
  obtain ⟨s, run, aborted⟩ := Transition.Steps.exists_of_runWhile runs
  obtain ⟨s', further, ended, events, -⟩ := rollout_completes opening run
  exact ⟨s, s', of_decide_eq_true aborted, further, ended.1, events⟩

end Windows

end ZeroRouter
