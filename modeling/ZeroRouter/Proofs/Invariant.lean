import ZeroRouter.Proofs.Change

/-!
# The invariant of the metering system

`Inv` ties the reservation rows, the stored and batched intents, the metering
rows and the ledger to the history of admissions.  `reservation_fate` and
`reservation_origin` say what one step can do to a row; `Inv.step` is the
induction step over `Change`.
-/

namespace ZeroRouter

open List Relational Table

variable {admission : Admission} {w : World} {requestId apiKeyId : Uuid} {call : World.SettleCall}

/-! ## What one step does to a reservation row -/

/-- What an in-place update may do to a row, whichever statement made it. -/
structure RowStep (w : World) (a : Action) (old new : UsageReservation) : Prop where
  columns : SameColumns old new
  dispatchedAt : old.dispatchedAt ≠ none → new.dispatchedAt ≠ none
  settlementIntent : new.settlementIntent = old.settlementIntent ∨
    ∃ payload, w.persists a old.id old.apiKeyId payload ∧ new.settlementIntent = some payload
  released : (new.releasedAt = old.releasedAt ∧ new.releasedNote = old.releasedNote) ∨
    (old.releasedAt = none ∧ old.quarantinedAt ≠ none)

section RowStep

variable {w w' : World} {a : Action} {old new row : UsageReservation}
  {R : UsageReservation → UsageReservation → Prop} {xs ys : List UsageReservation}

theorem RowStep.refl (row : UsageReservation) : RowStep w a row row :=
  ⟨.refl row, id, .inl rfl, .inl ⟨rfl, rfl⟩⟩

theorem Parked.rowStep (h : Parked old new) : RowStep w a old new :=
  ⟨h.columns, h.dispatchedAt, .inl h.settlementIntent, .inl ⟨h.releasedAt, h.releasedNote⟩⟩

theorem Persisted.rowStep {payload : SettlementPayload}
    (h : Persisted requestId apiKeyId payload old new)
    (source : w.persists a requestId apiKeyId payload) : RowStep w a old new where
  columns := h.columns
  dispatchedAt := by
    rw [h.dispatchedAt]
    exact id
  settlementIntent := by
    rcases h.settlementIntent with same | ⟨rfl, rfl, written⟩
    · exact .inl same
    · exact .inr ⟨payload, source, written⟩
  released := .inl ⟨h.releasedAt, h.releasedNote⟩

theorem ReleasedBy.rowStep (h : ReleasedBy requestId old new) :
    RowStep w a old new where
  columns := h.columns
  dispatchedAt := by
    rw [h.dispatchedAt]
    exact id
  settlementIntent := .inl h.settlementIntent
  released := h.released.imp id fun released => released.2

/-- Why a reservation row may disappear. -/
inductive Erased (w : World) (w' : World) (row : UsageReservation) : Prop where
  /-- It expired and nothing says it was ever dispatched. -/
  | reclaimed (now : Timestamp) (timely : now ≤ w.clock) (reclaimable : row.isReclaimable now)
  /-- The step that removed it inserted its metering row. -/
  | settled (unreleased : row.releasedAt = none)
      (absent : ∀ event ∈ w.db.usageEvents, event.requestId ≠ row.id)
      (metered : ∃ event ∈ w'.db.usageEvents, event.requestId = row.id)
  /-- Its metering row was there already. -/
  | discarded (metered : ∃ event ∈ w.db.usageEvents, event.requestId = row.id)

/-- A row in a pointwise-updated table has an old row behind it, and conversely. -/
theorem forall₂_exists_left (h : List.Forall₂ R xs ys) {y : UsageReservation} (hy : y ∈ ys) :
    ∃ x ∈ xs, R x y := by
  induction h with
  | nil => cases hy
  | cons hxy _ ih =>
      rcases mem_cons.mp hy with rfl | hy
      · exact ⟨_, mem_cons_self, hxy⟩
      · obtain ⟨x, hx, hR⟩ := ih hy
        exact ⟨x, mem_cons_of_mem _ hx, hR⟩

theorem forall₂_exists_right (h : List.Forall₂ R xs ys) {x : UsageReservation} (hx : x ∈ xs) :
    ∃ y ∈ ys, R x y := by
  obtain ⟨y, hy, hR⟩ := forall₂_exists_left h.flip hx
  exact ⟨y, hy, hR⟩

/-- Every row after a step was admitted by it or stood before it. -/
theorem reservation_origin (h : Change w a w') (hrow : new ∈ w'.db.usageReservations) :
    (∃ old ∈ w.db.usageReservations, RowStep w a old new) ∨
      ∃ admission, w'.admitted = admission :: w.admitted ∧ w.isFresh admission.requestId ∧
        new = admission.row := by
  cases h with
  | stay | ticked | batched | opened | keyAdded | keyDisabled =>
      exact .inl ⟨new, hrow, .refl new⟩
  | posted _ _ db moved =>
      obtain ⟨user, users, ledger, -, -, -, -, -, rfl⟩ := Db.moveBalance_ok moved
      exact .inl ⟨new, hrow, .refl new⟩
  | admitted now requestId request fate _ _ fresh lane swept keyState user allowed table inserted =>
      rcases (mem_insert inserted).mp hrow with hold | rfl
      · have sweep := allowed.sweep
        rw [lane] at sweep
        obtain ⟨old, hold, parked⟩ := forall₂_exists_left (Db.sweepExpired_ok sweep).rows hold
        exact .inl ⟨old, (mem_filter.mp hold).1, parked.rowStep⟩
      · exact .inr ⟨_, rfl, fresh, rfl⟩
  | parked table rows =>
      obtain ⟨old, hold, parked⟩ := forall₂_exists_left rows hrow
      exact .inl ⟨old, hold, parked.rowStep⟩
  | persisted requestId apiKeyId payload source table rows =>
      obtain ⟨old, hold, persisted⟩ := forall₂_exists_left rows hrow
      exact .inl ⟨old, hold, persisted.rowStep source⟩
  | released requestId _ table rows =>
      obtain ⟨old, hold, released⟩ := forall₂_exists_left rows hrow
      exact .inl ⟨old, hold, released.rowStep⟩
  | settled call _ _ reservation event db effect =>
      change new ∈ db.usageReservations at hrow
      rw [effect.reservations] at hrow
      exact .inl ⟨new, (mem_deleteWhere.mp hrow).1, .refl new⟩
  | metered _ _ _ _ _ _ _ _ _ db inserted =>
      obtain ⟨events, month, day, total, -, -, -, -, -, rfl⟩ := Db.insertUsageEvent_ok inserted
      exact .inl ⟨new, hrow, .refl new⟩
  | discarded => exact .inl ⟨new, (mem_deleteWhere.mp hrow).1, .refl new⟩

/-- Every row before a step stands after it or was erased for a stated reason. -/
theorem reservation_fate (h : Change w a w') (hrow : old ∈ w.db.usageReservations) :
    (∃ new ∈ w'.db.usageReservations, RowStep w a old new) ∨ Erased w w' old := by
  cases h with
  | stay | ticked | batched | opened | keyAdded | keyDisabled =>
      exact .inl ⟨old, hrow, .refl old⟩
  | posted _ _ db moved =>
      obtain ⟨user, users, ledger, -, -, -, -, -, rfl⟩ := Db.moveBalance_ok moved
      exact .inl ⟨old, hrow, .refl old⟩
  | admitted now requestId request fate _ timely _ lane swept keyState user allowed table
      inserted =>
      by_cases reclaimable : old.isReclaimable now
      · exact .inr (.reclaimed now timely reclaimable)
      · have sweep := allowed.sweep
        rw [lane] at sweep
        have kept : old ∈ w.db.usageReservations.rows.filter
            fun row => ¬ row.isReclaimable now :=
          mem_filter.mpr ⟨hrow, by simpa using reclaimable⟩
        obtain ⟨new, hnew, parked⟩ := forall₂_exists_right (Db.sweepExpired_ok sweep).rows kept
        exact .inl ⟨new, (mem_insert inserted).mpr (.inl hnew), parked.rowStep⟩
  | parked table rows =>
      obtain ⟨new, hnew, parked⟩ := forall₂_exists_right rows hrow
      exact .inl ⟨new, hnew, parked.rowStep⟩
  | persisted requestId apiKeyId payload source table rows =>
      obtain ⟨new, hnew, persisted⟩ := forall₂_exists_right rows hrow
      exact .inl ⟨new, hnew, persisted.rowStep source⟩
  | released requestId _ table rows =>
      obtain ⟨new, hnew, released⟩ := forall₂_exists_right rows hrow
      exact .inl ⟨new, hnew, released.rowStep⟩
  | settled call _ _ reservation event db effect =>
      by_cases settlable : old.isSettlable call.reservationId call.apiKeyId
      · have hid : event.requestId = old.id := effect.eventRequestId.trans settlable.1.symm
        refine .inr (.settled settlable.2.2 ?_ ⟨event, ?_, hid⟩)
        · intro other hother hsame
          exact (insert_ok effect.events).2.2 other hother (hsame.trans hid.symm)
        · exact (mem_insert effect.events).mpr (.inr rfl)
      · refine .inl ⟨old, ?_, .refl old⟩
        change old ∈ db.usageReservations
        rw [effect.reservations]
        exact mem_deleteWhere.mpr ⟨hrow, settlable⟩
  | metered _ _ _ _ _ _ _ _ _ db inserted =>
      obtain ⟨events, month, day, total, -, -, -, -, -, rfl⟩ := Db.insertUsageEvent_ok inserted
      exact .inl ⟨old, hrow, .refl old⟩
  | discarded reservationId apiKeyId =>
      by_cases doomed : old.id = reservationId ∧ old.apiKeyId = apiKeyId ∧
          ∃ event ∈ w.db.usageEvents, event.requestId = reservationId
      · obtain ⟨hid, -, event, hevent, hsame⟩ := doomed
        exact .inr (.discarded ⟨event, hevent, hsame.trans hid.symm⟩)
      · exact .inl ⟨old, mem_deleteWhere.mpr ⟨hrow, doomed⟩, .refl old⟩

end RowStep

/-! ## What one step does to the ledgers and the keys -/

section Ledgers

variable {w w' : World} {a : Action} {userId : Uuid}

/-- Where a metering row that was not there before came from. -/
inductive Metered (w : World) (a : Action) (w' : World) (event : UsageEvent) : Prop where
  | settled (call : World.SettleCall) (called : w.settleCall a = some call)
      (timely : call.now ≤ w.clock) (reservation : UsageReservation)
      (effect : Settled w.db call.now call.reservationId call.apiKeyId call.intent reservation
        event w'.db) (admitted : w'.admitted = w.admitted)
  | free (session : UsageSession) (mem : session ∈ w.sessions)
      (free : session.reservation = none) (requestId : event.requestId = session.requestId)
      (apiKeyId : event.apiKeyId = session.apiKeyId) (costless : event.costUsd = 0)
      (house : event.byokCatalogUsd = none)

theorem event_origin (h : Change w a w') {event : UsageEvent} (hevent : event ∈ w'.db.usageEvents) :
    event ∈ w.db.usageEvents ∨ Metered w a w' event := by
  cases h with
  | stay | ticked | batched | opened | admitted | parked | persisted | released | discarded
  | keyAdded | keyDisabled => exact .inl hevent
  | posted _ _ db moved =>
      obtain ⟨user, users, ledger, -, -, -, -, -, rfl⟩ := Db.moveBalance_ok moved
      exact .inl hevent
  | settled call called timely reservation new db effect =>
      rcases (mem_insert effect.events).mp hevent with hold | rfl
      · exact .inl hold
      · exact .inr (.settled call called timely reservation effect rfl)
  | metered session mem free new _ requestId apiKeyId costless house db inserted =>
      obtain ⟨events, month, day, total, hevents, -, -, -, -, rfl⟩ :=
        Db.insertUsageEvent_ok inserted
      rcases (mem_insert hevents).mp hevent with hold | rfl
      · exact .inl hold
      · exact .inr (.free session mem free requestId apiKeyId costless house)

/-- `usage_events` only grows. -/
theorem usageEvents_grow (h : Change w a w') : w.db.usageEvents.rows <+: w'.db.usageEvents.rows := by
  cases h with
  | stay | ticked | batched | opened | admitted | parked | persisted | released | discarded
  | keyAdded | keyDisabled => exact prefix_refl _
  | posted _ _ db moved =>
      obtain ⟨user, users, ledger, -, -, -, -, -, rfl⟩ := Db.moveBalance_ok moved
      exact prefix_refl _
  | settled call called _ reservation new db effect =>
      exact ⟨[new], (insert_ok effect.events).1.symm⟩
  | metered _ _ _ new _ _ _ _ _ db inserted =>
      obtain ⟨events, month, day, total, hevents, -, -, -, -, rfl⟩ :=
        Db.insertUsageEvent_ok inserted
      exact ⟨[new], (insert_ok hevents).1.symm⟩

/-- `credit_ledger` only grows. -/
theorem creditLedger_grow (h : Change w a w') :
    w.db.creditLedger.rows <+: w'.db.creditLedger.rows := by
  cases h with
  | stay | ticked | batched | opened | admitted | parked | persisted | released | discarded
  | keyAdded | keyDisabled => exact prefix_refl _
  | posted _ _ db moved =>
      obtain ⟨user, users, ledger, -, -, -, -, hledger, rfl⟩ := Db.moveBalance_ok moved
      exact ⟨_, (insert_ok hledger).1.symm⟩
  | settled call called _ reservation new db effect =>
      change w.db.creditLedger.rows <+: db.creditLedger.rows
      rcases effect.money with ⟨-, -, same⟩ | ⟨user, -, -, -, -, -, -, hledger⟩
      · exact ⟨[], by rw [same, append_nil]⟩
      · exact ⟨_, (insert_ok hledger).1.symm⟩
  | metered _ _ _ new _ _ _ _ _ db inserted =>
      obtain ⟨events, month, day, total, -, -, -, -, -, rfl⟩ := Db.insertUsageEvent_ok inserted
      exact prefix_refl _

/-- A ledger row that names a request was written by the settle that metered it. -/
theorem ledger_origin (h : Change w a w') {row : CreditLedger} (hrow : row ∈ w'.db.creditLedger)
    (names : row.requestId = some requestId) :
    row ∈ w.db.creditLedger ∨
      ∃ call reservation event, w.settleCall a = some call ∧
        Settled w.db call.now call.reservationId call.apiKeyId call.intent reservation event
          w'.db ∧
        w'.admitted = w.admitted ∧ requestId = call.reservationId ∧
        row.userId = call.intent.userId ∧
        row.amountUsd = -min event.costUsd reservation.reservedCostUsd := by
  cases h with
  | stay | ticked | batched | opened | admitted | parked | persisted | released | discarded
  | keyAdded | keyDisabled => exact .inl hrow
  | posted _ _ db moved =>
      obtain ⟨user, users, ledger, -, -, -, -, hledger, rfl⟩ := Db.moveBalance_ok moved
      rcases (mem_insert hledger).mp hrow with hold | rfl
      · exact .inl hold
      · cases names
  | settled call called _ reservation event db effect =>
      rcases effect.money with ⟨-, -, same⟩ | ⟨user, -, -, -, -, -, -, hledger⟩
      · change row ∈ db.creditLedger at hrow
        rw [same] at hrow
        exact .inl hrow
      · rcases (mem_insert hledger).mp hrow with hold | rfl
        · exact .inl hold
        · exact .inr ⟨call, reservation, event, called, effect, rfl,
            (Option.some.inj names).symm, rfl, rfl⟩
  | metered _ _ _ new _ _ _ _ _ db inserted =>
      obtain ⟨events, month, day, total, -, -, -, -, -, rfl⟩ := Db.insertUsageEvent_ok inserted
      exact .inl hrow

/-- Keys are added and disabled, never removed or handed over. -/
theorem owns_step (h : Change w a w') (owned : w.db.owns userId apiKeyId) :
    w'.db.owns userId apiKeyId := by
  cases h with
  | stay | ticked | batched | opened | admitted | parked | persisted | released | discarded =>
      exact owned
  | posted _ _ db moved =>
      obtain ⟨user, users, ledger, -, -, -, -, -, rfl⟩ := Db.moveBalance_ok moved
      exact owned
  | settled call called _ reservation event db effect =>
      rw [Db.owns_of_apiKeys effect.apiKeys]
      exact owned
  | metered _ _ _ new _ _ _ _ _ db inserted =>
      obtain ⟨events, month, day, total, -, -, -, -, -, rfl⟩ := Db.insertUsageEvent_ok inserted
      exact owned
  | keyAdded key _ apiKeys inserted =>
      obtain ⟨held, hheld, hid⟩ := owned
      exact ⟨held, (mem_insert inserted).mpr (.inl hheld), hid⟩
  | keyDisabled id apiKeys updated =>
      obtain ⟨held, hheld, hid, huser⟩ := owned
      refine ⟨_, (mem_updateWhere updated).mpr ⟨held, hheld, rfl⟩, ?_⟩
      unfold rewrite
      split <;> exact ⟨hid, huser⟩

/-- A key has one owner. -/
theorem Db.owns_unique {db : Db} {userId' : Uuid} (h : db.owns userId apiKeyId)
    (h' : db.owns userId' apiKeyId) : userId = userId' := by
  obtain ⟨key, hkey, hid, huser⟩ := h
  obtain ⟨key', hkey', hid', huser'⟩ := h'
  have same : key = key' := eq_of_clash hkey hkey' (hid.trans hid'.symm)
  rw [← huser, ← huser', same]

/-- The history of admissions only grows. -/
theorem admitted_step (h : Change w a w') (hmem : admission ∈ w.admitted) :
    admission ∈ w'.admitted := by
  cases h with
  | admitted => exact mem_cons_of_mem _ hmem
  | _ => exact hmem

/-- Sessions are kept. -/
theorem sessions_step (h : Change w a w') {session : UsageSession}
    (hmem : session ∈ w.sessions) : session ∈ w'.sessions := by
  cases h with
  | opened => exact mem_cons_of_mem _ hmem
  | admitted now requestId request fate =>
      change session ∈ if fate = .commit then _ else _
      split
      · exact mem_cons_of_mem _ hmem
      · exact hmem
  | _ => exact hmem

end Ledgers

/-! ## The invariant -/

/-- A payload that recovery would replay charges the account the reservation was
    admitted for, under the same funding rule. -/
def Admission.Owes (admission : Admission) (payload : SettlementPayload) : Prop :=
  ∀ intent, payload.readIntent = .ok intent →
    intent.userId = admission.request.key.userId ∧
      intent.requireCredits = admission.request.requireCredits

structure Inv (w : World) : Prop where
  unique : ∀ a ∈ w.admitted, ∀ b ∈ w.admitted, a.requestId = b.requestId → a = b
  lanes : ∀ a ∈ w.admitted, a.request.lane = .reserved
  sessions : ∀ s ∈ w.sessions, (∃ a ∈ w.admitted, s = a.session) ∨
    (s.reservation = none ∧ ∀ a ∈ w.admitted, a.requestId ≠ s.requestId)
  rows : ∀ row ∈ w.db.usageReservations, ∃ a ∈ w.admitted, SameColumns a.row row
  unmetered : ∀ row ∈ w.db.usageReservations, ∀ event ∈ w.db.usageEvents,
    event.requestId ≠ row.id
  intents : ∀ row ∈ w.db.usageReservations, ∀ a ∈ w.admitted, a.requestId = row.id →
    ∀ payload, row.settlementIntent = some payload → a.Owes payload
  batch : ∀ owed ∈ w.batch, ∃ a ∈ w.admitted, a.requestId = owed.reservationId ∧
    a.request.key.id = owed.apiKeyId ∧ a.Owes owed.payload
  keys : ∀ a ∈ w.admitted, w.db.owns a.request.key.userId a.request.key.id
  events : ∀ event ∈ w.db.usageEvents,
    (∃ a ∈ w.admitted, a.requestId = event.requestId ∧ a.request.key.id = event.apiKeyId) ∨
      (event.costUsd = 0 ∧ event.byokCatalogUsd = none ∧
        ∃ s ∈ w.sessions, s.reservation = none ∧ s.requestId = event.requestId)
  ledger : ∀ row ∈ w.db.creditLedger, ∀ requestId, row.requestId = some requestId →
    ∃ a ∈ w.admitted, ∃ event ∈ w.db.usageEvents, a.requestId = requestId ∧
      event.requestId = requestId ∧ row.userId = a.request.key.userId ∧
      row.amountUsd = -min event.costUsd a.plan.reservedCostUsd

/-- A `settle_once` call names an admitted reservation and charges its account. -/
theorem Inv.settleCall {a : Action} (inv : Inv w) (called : w.settleCall a = some call) :
    ∃ admission ∈ w.admitted, admission.requestId = call.reservationId ∧
      admission.request.key.id = call.apiKeyId ∧
      call.intent.userId = admission.request.key.userId ∧
      call.intent.requireCredits = admission.request.requireCredits := by
  cases a with
  | settle now requestId record fate =>
      obtain ⟨⟨session, reservation⟩, held, rfl⟩ := Option.map_eq_some_iff.mp called
      obtain ⟨hmem, hid, hres⟩ := World.reserved?_some held
      rcases inv.sessions session hmem with ⟨admission, hadm, rfl⟩ | ⟨hfree, -⟩
      · exact ⟨admission, hadm, hid, rfl, rfl, rfl⟩
      · rw [hfree] at hres
        cases hres
  | replay now owed fate =>
      simp only [World.settleCall] at called
      split at called
      · next hbatch =>
          split at called
          · next intent hread =>
              cases called
              obtain ⟨admission, hadm, hid, hkey, owes⟩ := inv.batch owed hbatch
              obtain ⟨huser, hcredits⟩ := owes intent hread
              exact ⟨admission, hadm, hid, hkey, huser, hcredits⟩
          · cases called
      · cases called
  | _ => cases called

/-- The reservation a settle consumes is the admitted row. -/
theorem Inv.settledRow {reservation : UsageReservation} (inv : Inv w)
    (hadm : admission ∈ w.admitted) (hid : admission.requestId = call.reservationId)
    (hmem : reservation ∈ w.db.usageReservations)
    (settlable : reservation.isSettlable call.reservationId call.apiKeyId) :
    SameColumns admission.row reservation := by
  obtain ⟨other, hother, columns⟩ := inv.rows reservation hmem
  have same : other = admission :=
    inv.unique other hother admission hadm ((columns.id.symm.trans settlable.1).trans hid.symm)
  rwa [same] at columns

theorem Inv.opening (h : w.Opening) : Inv w where
  unique := by simp [h.admitted]
  lanes := by simp [h.admitted]
  sessions := by simp [h.sessions]
  rows := by simp [h.usageReservations, mem_def]
  unmetered := by simp [h.usageReservations, mem_def]
  intents := by simp [h.usageReservations, mem_def]
  batch := by simp [h.batch]
  keys := by simp [h.admitted]
  events := by simp [h.usageEvents, mem_def]
  ledger := by simp [h.creditLedger, mem_def]

/-! ## The induction step -/

section Step

variable {w w' : World} {a : Action}

/-- An admission after a step is an old one or the fresh one the step committed. -/
theorem admitted_origin (h : Change w a w') (hmem : admission ∈ w'.admitted) :
    admission ∈ w.admitted ∨
      (w.isFresh admission.requestId ∧ admission.request.lane = .reserved ∧
        w'.admitted = admission :: w.admitted ∧
        w'.db.owns admission.request.key.userId admission.request.key.id) := by
  cases h with
  | admitted now requestId request fate _ _ fresh lane swept keyState user allowed =>
      rcases mem_cons.mp hmem with rfl | hold
      · refine .inr ⟨fresh, lane, rfl, ?_⟩
        obtain ⟨key, hfound, -⟩ := Option.map_eq_some_iff.mp allowed.presented
        obtain ⟨hkey, hid, ⟨huser, -⟩, -⟩ := find_some hfound
        exact ⟨key, hkey, hid, huser⟩
      · exact .inl hold
  | _ => exact .inl hmem

/-- The free sessions of an invariant world share no id with an admission. -/
theorem Inv.free_ne (inv : Inv w) {s : UsageSession} (hs : s ∈ w.sessions)
    (free : s.reservation = none) (hadm : admission ∈ w.admitted) :
    admission.requestId ≠ s.requestId := by
  rcases inv.sessions s hs with ⟨other, hother, rfl⟩ | ⟨-, apart⟩
  · have lane := inv.lanes other hother
    simp [Admission.session, newSession, lane] at free
  · exact apart admission hadm

theorem Inv.unique_step (inv : Inv w) (h : Change w a w') :
    ∀ x ∈ w'.admitted, ∀ y ∈ w'.admitted, x.requestId = y.requestId → x = y := by
  intro x hx y hy hxy
  rcases admitted_origin h hx with oldX | ⟨freshX, -, grownX, -⟩ <;>
    rcases admitted_origin h hy with oldY | ⟨freshY, -, grownY, -⟩
  · exact inv.unique x oldX y oldY hxy
  · exact absurd hxy (freshY.1 x oldX)
  · exact absurd hxy.symm (freshX.1 y oldY)
  · rw [grownX] at grownY
    exact (List.cons.inj grownY).1

theorem Inv.lanes_step (inv : Inv w) (h : Change w a w') :
    ∀ x ∈ w'.admitted, x.request.lane = .reserved := by
  intro x hx
  rcases admitted_origin h hx with old | ⟨-, lane, -, -⟩
  · exact inv.lanes x old
  · exact lane

theorem Inv.sessions_step (inv : Inv w) (h : Change w a w') :
    ∀ s ∈ w'.sessions, (∃ x ∈ w'.admitted, s = x.session) ∨
      (s.reservation = none ∧ ∀ x ∈ w'.admitted, x.requestId ≠ s.requestId) := by
  intro s hs
  have kept : s ∈ w.sessions → (∃ x ∈ w'.admitted, s = x.session) ∨
      (s.reservation = none ∧ ∀ x ∈ w'.admitted, x.requestId ≠ s.requestId) := by
    intro hold
    rcases inv.sessions s hold with ⟨x, hx, rfl⟩ | ⟨free, apart⟩
    · exact .inl ⟨x, admitted_step h hx, rfl⟩
    · refine .inr ⟨free, fun x hx => ?_⟩
      rcases admitted_origin h hx with old | ⟨fresh, -, -, -⟩
      · exact apart x old
      · exact (fresh.2 s hold).symm
  cases h with
  | opened session fresh free =>
      rcases mem_cons.mp hs with rfl | hold
      · exact .inr ⟨free, fresh.1⟩
      · exact kept hold
  | admitted now requestId request fate _ _ fresh _ swept =>
      change s ∈ if fate = .commit then _ else _ at hs
      split at hs
      · rcases mem_cons.mp hs with rfl | hold
        · exact .inl ⟨_, mem_cons_self, rfl⟩
        · exact kept hold
      · exact kept hs
  | _ => exact kept hs

theorem Inv.rows_step (inv : Inv w) (h : Change w a w') :
    ∀ row ∈ w'.db.usageReservations, ∃ x ∈ w'.admitted, SameColumns x.row row := by
  intro row hrow
  rcases reservation_origin h hrow with ⟨old, hold, moved⟩ | ⟨admission, grown, -, rfl⟩
  · obtain ⟨x, hx, columns⟩ := inv.rows old hold
    exact ⟨x, admitted_step h hx, columns.trans moved.columns⟩
  · exact ⟨admission, by simp [grown], .refl _⟩

theorem Inv.unmetered_step (inv : Inv w) (h : Change w a w') :
    ∀ row ∈ w'.db.usageReservations, ∀ event ∈ w'.db.usageEvents, event.requestId ≠ row.id := by
  intro row hrow event hevent hsame
  rcases reservation_origin h hrow with ⟨old, hold, moved⟩ | ⟨admission, grown, fresh, rfl⟩
  · obtain ⟨x, hx, columns⟩ := inv.rows old hold
    rcases event_origin h hevent with older | new
    · exact inv.unmetered old hold event older (hsame.trans moved.columns.id)
    cases new with
    | settled call called timely reservation effect =>
        -- The settle deleted the one row that bore this id.
        rw [effect.reservations] at hrow
        obtain ⟨hin, unsettlable⟩ := mem_deleteWhere.mp hrow
        have same : row = reservation := eq_of_clash hin effect.reservationMem
          ((hsame.symm.trans effect.eventRequestId).trans effect.settlable.1.symm)
        exact unsettlable (same ▸ effect.settlable)
    | free session mem free requestId =>
        refine inv.free_ne mem free hx ?_
        calc x.requestId = old.id := columns.id.symm
          _ = row.id := moved.columns.id.symm
          _ = event.requestId := hsame.symm
          _ = session.requestId := requestId
  · change event.requestId = admission.requestId at hsame
    rcases event_origin h hevent with older | new
    · rcases inv.events event older with ⟨x, hx, hid, -⟩ | ⟨-, -, s, hs, -, hid⟩
      · exact fresh.1 x hx (hid.trans hsame)
      · exact fresh.2 s hs (hid.trans hsame)
    cases new with
    | settled call called timely reservation effect same =>
        rw [same] at grown
        exact absurd grown.symm (cons_ne_self _ _)
    | free session mem free requestId =>
        exact fresh.2 session mem (requestId.symm.trans hsame)

theorem Inv.intents_step (inv : Inv w) (h : Change w a w') :
    ∀ row ∈ w'.db.usageReservations, ∀ x ∈ w'.admitted, x.requestId = row.id →
      ∀ payload, row.settlementIntent = some payload → x.Owes payload := by
  intro row hrow x hx hid payload hpayload
  rcases reservation_origin h hrow with ⟨old, hold, moved⟩ | ⟨admission, -, -, rfl⟩
  · have oldId : x.requestId = old.id := hid.trans moved.columns.id
    have hxOld : x ∈ w.admitted := by
      rcases admitted_origin h hx with older | ⟨fresh, -, -, -⟩
      · exact older
      · obtain ⟨y, hy, columns⟩ := inv.rows old hold
        exact absurd (columns.id.symm.trans oldId.symm) (fresh.1 y hy)
    rcases moved.settlementIntent with same | ⟨written, source, hwritten⟩
    · exact inv.intents old hold x hxOld oldId payload (same ▸ hpayload)
    · have hw : written = payload := Option.some.inj (hwritten.symm.trans hpayload)
      subst hw
      cases a with
      | persistIntent now requestId record =>
          obtain ⟨session, reservation, held, hid', -, rfl⟩ := source
          obtain ⟨hmem, hsid, hres⟩ := World.reserved?_some held
          rcases inv.sessions session hmem with ⟨y, hy, rfl⟩ | ⟨free, -⟩
          · have same : y = x :=
              inv.unique y hy x hxOld ((hsid.trans hid'.symm).trans oldId.symm)
            subst same
            intro intent hread
            cases hread
            exact ⟨rfl, rfl⟩
          · rw [free] at hres
            cases hres
      | persistForeignIntent now requestId apiKeyId foreign =>
          obtain ⟨-, -, rfl, unread⟩ := source
          intro intent hread
          rw [hread] at unread
          cases unread
      | _ => cases source
  · cases hpayload

theorem Inv.batch_step (inv : Inv w) (h : Change w a w') :
    ∀ owed ∈ w'.batch, ∃ x ∈ w'.admitted, x.requestId = owed.reservationId ∧
      x.request.key.id = owed.apiKeyId ∧ x.Owes owed.payload := by
  intro owed howed
  have kept : owed ∈ w.batch → ∃ x ∈ w'.admitted, x.requestId = owed.reservationId ∧
      x.request.key.id = owed.apiKeyId ∧ x.Owes owed.payload := by
    intro hold
    obtain ⟨x, hx, facts⟩ := inv.batch owed hold
    exact ⟨x, admitted_step h hx, facts⟩
  cases h with
  | batched batch read =>
      rcases read owed howed with hold | ⟨row, hrow, hread⟩
      · exact kept hold
      · obtain ⟨payload, hpayload, rfl⟩ := Option.map_eq_some_iff.mp hread
        obtain ⟨x, hx, columns⟩ := inv.rows row hrow
        exact ⟨x, hx, columns.id.symm, columns.apiKeyId.symm,
          inv.intents row hrow x hx columns.id.symm payload hpayload⟩
  | _ => exact kept howed

theorem Inv.keys_step (inv : Inv w) (h : Change w a w') :
    ∀ x ∈ w'.admitted, w'.db.owns x.request.key.userId x.request.key.id := by
  intro x hx
  rcases admitted_origin h hx with old | ⟨-, -, -, owned⟩
  · exact owns_step h (inv.keys x old)
  · exact owned

theorem Inv.events_step (inv : Inv w) (h : Change w a w') :
    ∀ event ∈ w'.db.usageEvents,
      (∃ x ∈ w'.admitted, x.requestId = event.requestId ∧ x.request.key.id = event.apiKeyId) ∨
        (event.costUsd = 0 ∧ event.byokCatalogUsd = none ∧
          ∃ s ∈ w'.sessions, s.reservation = none ∧ s.requestId = event.requestId) := by
  intro event hevent
  rcases event_origin h hevent with older | new
  · rcases inv.events event older with ⟨x, hx, facts⟩ | ⟨costless, house, s, hs, facts⟩
    · exact .inl ⟨x, admitted_step h hx, facts⟩
    · exact .inr ⟨costless, house, s, ZeroRouter.sessions_step h hs, facts⟩
  cases new with
  | settled call called timely reservation effect =>
      obtain ⟨x, hx, hid, hkey, -⟩ := inv.settleCall called
      exact .inl ⟨x, admitted_step h hx, hid.trans effect.eventRequestId.symm,
        hkey.trans effect.eventApiKeyId.symm⟩
  | free session mem free requestId apiKeyId costless house =>
      exact .inr ⟨costless, house, session, ZeroRouter.sessions_step h mem, free, requestId.symm⟩

theorem Inv.ledger_step (inv : Inv w) (h : Change w a w') :
    ∀ row ∈ w'.db.creditLedger, ∀ requestId, row.requestId = some requestId →
      ∃ x ∈ w'.admitted, ∃ event ∈ w'.db.usageEvents, x.requestId = requestId ∧
        event.requestId = requestId ∧ row.userId = x.request.key.userId ∧
        row.amountUsd = -min event.costUsd x.plan.reservedCostUsd := by
  intro row hrow requestId names
  rcases ledger_origin h hrow names with
    older | ⟨call, reservation, event, called, effect, same, hcall, huser, hamount⟩
  · obtain ⟨x, hx, event, hevent, facts⟩ := inv.ledger row older requestId names
    exact ⟨x, admitted_step h hx, event, (usageEvents_grow h).subset hevent, facts⟩
  · obtain ⟨x, hx, hid, -, hintent, -⟩ := inv.settleCall called
    have columns := inv.settledRow hx hid effect.reservationMem effect.settlable
    have hcost : reservation.reservedCostUsd = x.plan.reservedCostUsd := columns.reservedCostUsd
    refine ⟨x, admitted_step h hx, event, (mem_insert effect.events).mpr (.inr rfl),
      hid.trans hcall.symm, effect.eventRequestId.trans hcall.symm, huser.trans hintent, ?_⟩
    rw [hamount, hcost]

theorem Inv.step (inv : Inv w) (h : Change w a w') : Inv w' where
  unique := inv.unique_step h
  lanes := inv.lanes_step h
  sessions := inv.sessions_step h
  rows := inv.rows_step h
  unmetered := inv.unmetered_step h
  intents := inv.intents_step h
  batch := inv.batch_step h
  keys := inv.keys_step h
  events := inv.events_step h
  ledger := inv.ledger_step h

end Step

/-- The invariant holds in every reachable state. -/
theorem Inv.reaches {C : World → Action → Prop} {w₀ : World} (opening : w₀.Opening)
    (run : Reaches C w₀ w) : Inv w :=
  run.invariant (.opening opening) fun _ _ _ inv _ next => inv.step (step_change next)

end ZeroRouter
