import ZeroRouter.Proofs.Lifecycle

/-!
# A quarantine once set

Six statements update a reservation in place, and two constraints of migrations 0014
and 0015 lean on none of them taking a quarantine back.  Five do not.  The failure
stamp writes `NULL` into the column of a row that carries no intent, quarantined or
not.
-/

namespace ZeroRouter

open Relational

variable {requestId : Uuid} {since now : Timestamp} {p : UsageReservation → Prop}
  {result : Except SqlError Db} {fate : Fate} {w w' : World} {a : Action}

/-- The in-place updates of the settlement machinery. -/
inductive ReservationUpdate where
  | markDispatched (now : Timestamp) (reservationId apiKeyId : Uuid)
  | persistIntent (now : Timestamp) (requestId apiKeyId : Uuid) (payload : SettlementPayload)
  | recordSettleFailure (now : Timestamp) (reservationId : Uuid) (error : String)
  | quarantineSettlement (now : Timestamp) (reservationId : Uuid) (reason : String)
  | quarantineExpired (now : Timestamp)
  | release (now : Timestamp) (requestId : Uuid) (note : String)

namespace ReservationUpdate

/-- The statement's `WHERE`; a release has read that the row is quarantined. -/
def selects : ReservationUpdate → UsageReservation → Prop
  | .markDispatched _ reservationId apiKeyId, row =>
      row.id = reservationId ∧ row.apiKeyId = apiKeyId ∧ row.dispatchedAt = none
  | .persistIntent _ requestId apiKeyId _, row => row.id = requestId ∧ row.apiKeyId = apiKeyId
  | .recordSettleFailure _ reservationId _, row => row.id = reservationId
  | .quarantineSettlement _ reservationId _, row =>
      row.id = reservationId ∧ row.settlementIntent ≠ none
  | .quarantineExpired now, row => row.isQuarantinable now
  | .release _ requestId _, row =>
      row.id = requestId ∧ row.releasedAt = none ∧ row.quarantinedAt ≠ none

/-- The statement's `SET`. -/
def assign : ReservationUpdate → UsageReservation → UsageReservation
  | .markDispatched now _ _, row => { row with dispatchedAt := some now }
  | .persistIntent now _ _ payload, row =>
      { row with settlementIntent := some payload, settlementIntentAt := some now }
  | .recordSettleFailure now _ error, row => row.settleFailed now error
  | .quarantineSettlement now _ reason, row =>
      { row with
        quarantinedAt := some (row.quarantinedAt.getD now)
        lastSettleError := some (truncateDetail reason) }
  | .quarantineExpired now, row => row.quarantineExpired now
  | .release now _ note, row =>
      { row with releasedAt := some now, releasedNote := some (trim note) }

/-- A failure stamp names no quarantined row that carries no intent. -/
def NamesAnIntent (u : ReservationUpdate) (row : UsageReservation) : Prop :=
  ∀ now reservationId error, u = .recordSettleFailure now reservationId error →
    row.quarantinedAt ≠ none → row.settlementIntent ≠ none

variable {u : ReservationUpdate} {row : UsageReservation}

theorem assign_id : (u.assign row).id = row.id := by
  cases u <;> rfl

/-- No other update clears or moves a quarantine. -/
theorem assign_quarantinedAt (selected : u.selects row) (names : u.NamesAnIntent row)
    (quarantined : row.quarantinedAt = some since) :
    (u.assign row).quarantinedAt = some since := by
  have parked : row.quarantinedAt ≠ none := by simp [quarantined]
  cases u with
  | markDispatched | persistIntent | release => exact quarantined
  | recordSettleFailure now reservationId error =>
      have carries := names now reservationId error rfl parked
      simp only [assign, UsageReservation.settleFailed, if_neg carries, if_pos parked]
      exact quarantined
  | quarantineSettlement => simp [assign, quarantined]
  | quarantineExpired now => exact absurd selected.2.1 parked

/-- A row that meets both constraints still meets them. -/
theorem assign_constraints (check : UsageReservationCheck row) (selected : u.selects row)
    (names : u.NamesAnIntent row) :
    ((u.assign row).releasedAt = none ∨ (u.assign row).quarantinedAt ≠ none) ∧
      ((u.assign row).quarantinedAt = none ∨ (u.assign row).settlementIntent ≠ none ∨
        (u.assign row).dispatchedAt ≠ none) := by
  have released := check.releaseRequiresQuarantine
  have evidence := check.quarantineRequiresEvidence
  cases u with
  | markDispatched => exact ⟨released, .inr (.inr (by simp [assign]))⟩
  | persistIntent => exact ⟨released, .inr (.inl (by simp [assign]))⟩
  | recordSettleFailure now reservationId error =>
      have carries := names now reservationId error rfl
      simp only [assign, UsageReservation.settleFailed]
      by_cases intent : row.settlementIntent = none
      · -- not quarantined, so not released either
        have parked : row.quarantinedAt = none := by
          by_contra set
          exact carries set intent
        rw [if_pos intent]
        exact ⟨.inl (released.resolve_right (not_not.mpr parked)), .inl rfl⟩
      · rw [if_neg intent]
        refine ⟨?_, .inr (.inl intent)⟩
        rcases released with unreleased | parked
        · exact .inl unreleased
        · rw [if_pos parked]
          exact .inr parked
  | quarantineSettlement => exact ⟨.inr (by simp [assign]), .inr (.inl selected.2)⟩
  | quarantineExpired now =>
      exact ⟨.inr (by simp [assign, UsageReservation.quarantineExpired]), .inr selected.2.2⟩
  | release => exact ⟨.inr selected.2.2, evidence⟩

end ReservationUpdate

/-! ## The updates are all there are -/

/-- The failure stamps an action makes, as the update they are. -/
def Action.makes (a : Action) (u : ReservationUpdate) : Prop :=
  ∀ now reservationId error, u = .recordSettleFailure now reservationId error →
    a = .recordSettleFailure now reservationId error

/-- Where the reservations of a state come from: each stood as it was, was written by
    one of the updates, or is of a request no row had. -/
def Sourced (w : World) (a : Action) (w' : World) : Prop :=
  ∀ new ∈ w'.db.usageReservations,
    new ∈ w.db.usageReservations ∨
      (∃ old ∈ w.db.usageReservations, ∃ u, a.makes u ∧ u.selects old ∧ new = u.assign old) ∨
      w.isFresh new.id

namespace Sourced

variable {w w' : World} {a : Action}

theorem of_table (same : w'.db.usageReservations = w.db.usageReservations) : Sourced w a w' :=
  fun _ mem => .inl (same ▸ mem)

theorem of_deleteWhere [DecidablePred p]
    (deleted : w'.db.usageReservations = w.db.usageReservations.deleteWhere p) :
    Sourced w a w' := by
  intro new mem
  rw [deleted] at mem
  exact .inl (Table.mem_deleteWhere.mp mem).1

theorem of_run (granted : ∀ db, result = .ok db → Sourced w a { w with db }) :
    Sourced w a (w.run result) := by
  cases result with
  | error e => exact of_table rfl
  | ok db => exact granted db rfl

theorem of_transact (granted : ∀ db, result = .ok db → Sourced w a { w with db }) :
    Sourced w a (w.transact fate result) := by
  unfold World.transact
  split
  · exact of_run granted
  · exact of_table rfl

/-- A statement whose selected rows one of the updates rewrites. -/
theorem of_updateWhere [DecidablePred p] {f : UsageReservation → UsageReservation}
    (u : ReservationUpdate) (makes : a.makes u)
    (updated : w.db.usageReservations.updateWhere p f = .ok w'.db.usageReservations)
    (selects : ∀ row ∈ w.db.usageReservations, p row → u.selects row)
    (assigns : ∀ row, f row = u.assign row) : Sourced w a w' := by
  intro new mem
  obtain ⟨old, there, rewritten⟩ := (Table.mem_updateWhere updated).mp mem
  unfold Table.rewrite at rewritten
  split at rewritten
  · next chosen =>
    exact .inr (.inl ⟨old, there, u, makes, selects old there chosen,
      rewritten.symm.trans (assigns old)⟩)
  · exact .inl (rewritten ▸ there)

theorem of_settle {call : World.SettleCall} : Sourced w a (w.runSettle call) := by
  refine of_transact fun db hdb => ?_
  obtain ⟨outcome, hsettle⟩ := exists_of_map_snd_eq_ok hdb
  rcases Db.settleOnce_ok hsettle with ⟨-, rfl⟩ | ⟨-, reservation, event, effect⟩
  · exact of_table rfl
  · exact of_deleteWhere effect.reservations

theorem of_beginUsageSession {request : AdmissionRequest} (fresh : w.isFresh requestId) :
    Sourced w (.beginUsageSession now requestId request fate)
      (w.runBeginUsageSession now requestId request fate) := by
  unfold World.runBeginUsageSession
  split
  · next session db hbegin =>
    split
    · obtain ⟨swept, keyState, user, allowed, hlane⟩ := Db.beginUsageSession_allowed hbegin
      have sweep := allowed.sweep
      cases lane : request.lane with
      | free =>
          rw [lane] at hlane sweep
          cases sweep
          exact of_table (congrArg Db.usageReservations hlane)
      | reserved =>
          rw [lane] at hlane sweep
          obtain ⟨table, inserted, rfl⟩ := hlane
          simp only [Db.sweptFor, Db.sweepExpired, bind_eq_ok, liftViolation_eq_ok] at sweep
          obtain ⟨parked, updated, hswept⟩ := sweep
          cases hswept
          intro new mem
          rcases (Table.mem_insert inserted).mp mem with swept | rfl
          · -- what the sweep left is what it parked of what it did not reclaim
            obtain ⟨old, kept, rewritten⟩ := (Table.mem_updateWhere updated).mp swept
            have there := (Table.mem_deleteWhere.mp kept).1
            unfold Table.rewrite at rewritten
            split at rewritten
            · next expired =>
              refine .inr (.inl ⟨old, there, .quarantineExpired now, ?_, expired, rewritten.symm⟩)
              intro _ _ _ h
              cases h
            · exact .inl (rewritten ▸ there)
          · exact .inr (.inr fresh)
    · exact of_table rfl
  · exact of_table rfl

theorem of_release {note : String} {forgive : Bool} {db : Db} {outcome : ReservationRelease}
    (h : w.db.releaseQuarantinedReservation now requestId note forgive = .ok (outcome, db)) :
    Sourced w a { w with db } := by
  simp only [Db.releaseQuarantinedReservation, bind_eq_ok, ensure_eq_ok] at h
  obtain ⟨-, -, h⟩ := h
  split at h
  · cases h
    exact of_table rfl
  next row found =>
  split at h
  · cases h
    exact of_table rfl
  split at h
  · cases h
    exact of_table rfl
  next quarantined =>
  split at h
  · cases h
    exact of_table rfl
  simp only [bind_eq_ok, liftViolation_eq_ok] at h
  obtain ⟨table, updated, h⟩ := h
  cases h
  obtain ⟨mem, hid⟩ := Table.find_some found
  refine of_updateWhere (.release now requestId note) ?_ updated ?_ fun _ => rfl
  · intro _ _ _ h
    cases h
  · intro other there selected
    have same : other = row := Table.eq_of_clash there mem (selected.1.trans hid.symm)
    subst same
    exact ⟨selected.1, selected.2, quarantined⟩

end Sourced

theorem step_sourced (h : step w a = some w') : Sourced w a w' := by
  unfold step at h
  split at h
  case isFalse => cases h
  next timely =>
  cases a with
  | tick clock =>
      simp only at h
      split at h
      · cases h
        exact .of_table rfl
      · cases h
  | beginUsageSession now requestId request fate =>
      simp only at h
      split at h
      · next fresh =>
        cases h
        exact .of_beginUsageSession fresh
      · cases h
  | markDispatched now requestId =>
      obtain ⟨⟨session, reservation⟩, -, rfl⟩ := Option.map_eq_some_iff.mp h
      refine .of_run fun db hdb => ?_
      simp only [Db.markDispatched, bind_eq_ok, liftViolation_eq_ok] at hdb
      obtain ⟨table, updated, hdb⟩ := hdb
      cases hdb
      refine .of_updateWhere (.markDispatched now requestId session.apiKeyId) ?_ updated
        (fun _ _ selected => selected) fun _ => rfl
      intro _ _ _ h
      cases h
  | persistIntent now requestId record =>
      obtain ⟨⟨session, reservation⟩, -, rfl⟩ := Option.map_eq_some_iff.mp h
      refine .of_run fun db hdb => ?_
      simp only [Db.persistIntent, bind_eq_ok, liftViolation_eq_ok] at hdb
      obtain ⟨table, updated, hdb⟩ := hdb
      cases hdb
      refine .of_updateWhere (.persistIntent now requestId session.apiKeyId
        (.readable (.new session reservation record))) ?_ updated
        (fun _ _ selected => selected) fun _ => rfl
      intro _ _ _ h
      cases h
  | persistForeignIntent now requestId apiKeyId payload =>
      simp only at h
      split at h
      · cases h
      · cases h
        refine .of_run fun db hdb => ?_
        simp only [Db.persistIntent, bind_eq_ok, liftViolation_eq_ok] at hdb
        obtain ⟨table, updated, hdb⟩ := hdb
        cases hdb
        refine .of_updateWhere (.persistIntent now requestId apiKeyId payload) ?_ updated
          (fun _ _ selected => selected) fun _ => rfl
        intro _ _ _ h
        cases h
  | settle now requestId record fate =>
      obtain ⟨call, -, rfl⟩ := Option.map_eq_some_iff.mp h
      exact .of_settle
  | observeFreeUsage now requestId record =>
      obtain ⟨session, -, h⟩ := Option.bind_eq_some_iff.mp h
      split at h
      · cases h
        refine .of_run fun db hdb => ?_
        obtain ⟨event, inserted, -⟩ := Db.observeFreeUsage_ok hdb
        obtain ⟨events, month, day, total, -, -, -, -, -, rfl⟩ := Db.insertUsageEvent_ok inserted
        exact .of_table rfl
      · cases h
  | recordSettleFailure now requestId error =>
      cases h
      refine .of_run fun db hdb => ?_
      obtain ⟨quarantined, hrecord⟩ := exists_of_map_snd_eq_ok hdb
      simp only [Db.recordSettleFailure, bind_eq_ok, liftViolation_eq_ok] at hrecord
      obtain ⟨table, updated, hrecord⟩ := hrecord
      cases hrecord
      refine .of_updateWhere (.recordSettleFailure now requestId error) ?_ updated
        (fun _ _ selected => selected) fun _ => rfl
      intro _ _ _ h
      cases h
      rfl
  | readOwed now limit =>
      cases h
      exact .of_table rfl
  | readQuarantined requestId =>
      simp only at h
      split at h
      · split at h
        · cases h
          exact .of_table rfl
        · cases h
      · cases h
  | replay now owed fate =>
      simp only at h
      split at h
      · split at h
        · obtain ⟨call, -, rfl⟩ := Option.map_eq_some_iff.mp h
          exact .of_settle
        · next reason _ =>
          cases h
          refine .of_run fun db hdb => ?_
          simp only [Db.quarantineSettlement, bind_eq_ok, liftViolation_eq_ok] at hdb
          obtain ⟨table, updated, hdb⟩ := hdb
          cases hdb
          refine .of_updateWhere (.quarantineSettlement now owed.reservationId reason) ?_ updated
            (fun _ _ selected => selected) fun _ => rfl
          intro _ _ _ h
          cases h
      · cases h
  | discard reservationId apiKeyId =>
      cases h
      exact .of_deleteWhere rfl
  | release now requestId note forgive fate =>
      cases h
      refine .of_transact fun db hdb => ?_
      obtain ⟨outcome, hrelease⟩ := exists_of_map_snd_eq_ok hdb
      exact .of_release hrelease
  | post posting =>
      cases h
      refine .of_run fun db hdb => ?_
      obtain ⟨user, users, ledger, -, -, -, -, -, rfl⟩ := Db.moveBalance_ok hdb
      exact .of_table rfl
  | addKey key =>
      cases h
      refine .of_run fun db hdb => ?_
      simp only [bind_eq_ok, ensure_eq_ok, liftViolation_eq_ok] at hdb
      obtain ⟨-, -, apiKeys, -, hdb⟩ := hdb
      cases hdb
      exact .of_table rfl
  | disableKey id =>
      cases h
      refine .of_run fun db hdb => ?_
      simp only [bind_eq_ok, liftViolation_eq_ok] at hdb
      obtain ⟨apiKeys, -, hdb⟩ := hdb
      cases hdb
      exact .of_table rfl

/-! ## Runs -/

/-- No failed settle is recorded on a quarantined row that carries no intent. -/
def FailuresNameAnIntent (w : World) : Action → Prop
  | .recordSettleFailure _ requestId _ =>
      ∀ row ∈ w.db.usageReservations, row.id = requestId → row.quarantinedAt ≠ none →
        row.settlementIntent ≠ none
  | _ => True

instance (w : World) : (a : Action) → Decidable (FailuresNameAnIntent w a)
  | .recordSettleFailure _ requestId _ =>
      inferInstanceAs (Decidable (∀ row ∈ w.db.usageReservations, row.id = requestId →
        row.quarantinedAt ≠ none → row.settlementIntent ≠ none))
  | .tick .. | .beginUsageSession .. | .markDispatched .. | .persistIntent ..
  | .persistForeignIntent .. | .settle .. | .observeFreeUsage .. | .readOwed ..
  | .readQuarantined .. | .replay .. | .discard .. | .release .. | .post .. | .addKey ..
  | .disableKey .. => isTrue trivial

/-- The rows of one request are quarantined since one instant. -/
def QuarantinedSince (requestId : Uuid) (since : Timestamp) (w : World) : Prop :=
  (∃ admission ∈ w.admitted, admission.requestId = requestId) ∧
    ∀ row ∈ w.db.usageReservations, row.id = requestId → row.quarantinedAt = some since

theorem QuarantinedSince.step (quarantined : QuarantinedSince requestId since w)
    (names : FailuresNameAnIntent w a) (h : step w a = some w') :
    QuarantinedSince requestId since w' := by
  obtain ⟨⟨admission, admitted, hid⟩, rows⟩ := quarantined
  refine ⟨⟨admission, admitted_step (step_change h) admitted, hid⟩, ?_⟩
  intro new mem named
  rcases step_sourced h new mem with same | ⟨old, there, u, makes, selected, rfl⟩ | fresh
  · exact rows new same named
  · rw [ReservationUpdate.assign_id] at named
    refine ReservationUpdate.assign_quarantinedAt selected ?_ (rows old there named)
    intro now reservationId error recorded
    subst recorded
    have stamped := makes now reservationId error rfl
    subst stamped
    exact names old there selected
  · exact absurd (hid.trans named.symm) (fresh.1 admission admitted)

/-- Where no failed settle is recorded on a quarantined row without an intent: a row that
    is quarantined stays quarantined, since the same instant, in every later state it is
    found in; and no in-place update of any row of any state reached would break the
    constraint that a release requires a quarantine, or a quarantine evidence. -/
theorem quarantine_monotone {w₀ w w' : World} (opening : w₀.Opening)
    (before : Reaches FailuresNameAnIntent w₀ w) (later : Reaches FailuresNameAnIntent w w') :
    (∀ row ∈ w.db.usageReservations, ∀ since, row.quarantinedAt = some since →
      ∀ kept ∈ w'.db.usageReservations, kept.id = row.id → kept.quarantinedAt = some since) ∧
    ∀ row ∈ w'.db.usageReservations, ∀ u : ReservationUpdate, u.selects row →
      u.NamesAnIntent row →
      ((u.assign row).releasedAt = none ∨ (u.assign row).quarantinedAt ≠ none) ∧
        ((u.assign row).quarantinedAt = none ∨ (u.assign row).settlementIntent ≠ none ∨
          (u.assign row).dispatchedAt ≠ none) := by
  refine ⟨?_, ?_⟩
  · intro row mem since quarantined kept there named
    obtain ⟨admission, admitted, columns⟩ := (Inv.reaches opening before).rows row mem
    have start : QuarantinedSince row.id since w := by
      refine ⟨⟨admission, admitted, columns.id.symm⟩, ?_⟩
      intro other mem' same
      have one : other = row := Table.eq_of_clash mem' mem same
      rw [one]
      exact quarantined
    have finish := later.invariant start fun _ _ _ held names next => held.step names next
    exact finish.2 kept there named
  · intro row mem u selected names
    exact ReservationUpdate.assign_constraints (w'.db.usageReservations.checked row mem) selected
      names

/-- A delivered charge whose intent was stored and never settled in time. -/
def storedIntentRun : List Action :=
  [.beginUsageSession 0 7 (houseRequest 5) .commit, .markDispatched 0 7,
    .persistIntent 0 7 (houseRecord 6), .tick (reservationTtl + 1),
    .beginUsageSession (reservationTtl + 1) 8 (houseRequest 5) .commit]

theorem quarantine_monotone_storedIntent :
    ∃ w w', ∃ row ∈ w.db.usageReservations, row.id = 7 ∧
      row.quarantinedAt = some (reservationTtl + 1) ∧
      step w (.recordSettleFailure (reservationTtl + 1) 7 "pool timed out") = some w' ∧
      ∀ kept ∈ w'.db.usageReservations, kept.id = 7 →
        kept.quarantinedAt = some (reservationTtl + 1) := by
  let start := World.fresh onePrepaidUser oneKey 0
  have runs : (Transition.runWhile step FailuresNameAnIntent start storedIntentRun).any
      (fun w => (w.db.usageReservations.find fun row => row.id = 7).any (fun row =>
          row.quarantinedAt = some (reservationTtl + 1)) &&
        (Transition.runWhile step FailuresNameAnIntent w
          [.recordSettleFailure (reservationTtl + 1) 7 "pool timed out"]).isSome) = true := by
    decide +kernel
  obtain ⟨w, before, hw⟩ := Transition.Steps.exists_of_runWhile runs
  rw [Bool.and_eq_true] at hw
  obtain ⟨row, found, quarantined⟩ := (Option.any_eq_true _ _).mp hw.1
  obtain ⟨mem, hid⟩ := Table.find_some found
  obtain ⟨w', stamps⟩ := Option.isSome_iff_exists.mp hw.2
  have later := Transition.Steps.of_runWhile stamps
  have next : step w (.recordSettleFailure (reservationTtl + 1) 7 "pool timed out") = some w' := by
    rw [Transition.runWhile] at stamps
    split at stamps
    · obtain ⟨reached, next, rest⟩ := Option.bind_eq_some_iff.mp stamps
      cases rest
      exact next
    · cases stamps
  have parked := of_decide_eq_true quarantined
  have kept := (quarantine_monotone (World.opening_fresh _ _ _) before later).1 row mem _ parked
  exact ⟨w, w', row, mem, hid, parked, next, fun kept' there named =>
    kept kept' there (named.trans hid.symm)⟩

/-- Past its lifetime a dispatched request whose intent was lost is quarantined, and its
    late failure clears that; released by an operator first, the failure is refused by the
    constraint. -/
theorem late_failure_clears_quarantine :
    (∃ w w', Reaches Transition.anyStep (.fresh onePrepaidUser oneKey 0) w ∧
      step w (.recordSettleFailure (reservationTtl + 1) 7 "pool timed out") = some w' ∧
      ∃ row ∈ w.db.usageReservations, ∃ kept ∈ w'.db.usageReservations, row.id = 7 ∧ kept.id = 7 ∧
        row.quarantinedAt = some (reservationTtl + 1) ∧ kept.quarantinedAt = none) ∧
    ∃ w, Reaches Transition.anyStep (.fresh onePrepaidUser oneKey 0) w ∧
      w.db.recordSettleFailure (reservationTtl + 1) 7 "pool timed out" =
        .error .checkViolation := by
  constructor
  · have runs : (Transition.runWhile step Transition.anyStep (.fresh onePrepaidUser oneKey 0)
        lostIntentRun).any (fun w =>
          (w.db.usageReservations.find fun row => row.id = 7).any (fun row =>
            row.quarantinedAt = some (reservationTtl + 1)) &&
          (step w (.recordSettleFailure (reservationTtl + 1) 7 "pool timed out")).any fun w' =>
            (w'.db.usageReservations.find fun row => row.id = 7).any fun row =>
              row.quarantinedAt = none) = true := by
      decide +kernel
    obtain ⟨w, run, hw⟩ := Transition.Steps.exists_of_runWhile runs
    rw [Bool.and_eq_true] at hw
    obtain ⟨row, found, quarantined⟩ := (Option.any_eq_true _ _).mp hw.1
    obtain ⟨w', next, hw'⟩ := (Option.any_eq_true _ _).mp hw.2
    obtain ⟨kept, found', cleared⟩ := (Option.any_eq_true _ _).mp hw'
    obtain ⟨mem, hid⟩ := Table.find_some found
    obtain ⟨mem', hid'⟩ := Table.find_some found'
    exact ⟨w, w', run, next, row, mem, kept, mem', hid, hid', of_decide_eq_true quarantined,
      of_decide_eq_true cleared⟩
  · have runs : (Transition.runWhile step Transition.anyStep (.fresh onePrepaidUser oneKey 0)
        (lostIntentRun ++ [.release (reservationTtl + 1) 7 "never delivered" false .commit])).any
        (fun w => match w.db.recordSettleFailure (reservationTtl + 1) 7 "pool timed out" with
          | .error refusal => refusal = SqlError.checkViolation
          | .ok _ => false) = true := by
      decide +kernel
    obtain ⟨w, run, hw⟩ := Transition.Steps.exists_of_runWhile runs
    refine ⟨w, run, ?_⟩
    split at hw
    · next refusal refused =>
      rw [refused, of_decide_eq_true hw]
    · cases hw

end ZeroRouter
